import Mathlib.Logic.Function.Iterate
import WorkflowSynthesis.CommandLine.Program
import WorkflowSynthesis.Proofs.CommandLine.Surroundings

/-!
How a run of the program ends. Unless a workflow was delivered, nothing was printed and no file was touched; the exit
code tells whether one was, and whether it can be run.
-/

namespace WorkflowSynthesis

namespace Dialogue

variable {α β : Type} {finished : α → Surroundings → Prop} {left : Surroundings → Nat → Prop}

/-- Conducted in some surroundings, a dialogue comes to a result or to an exit code with which one of two conditions
holds. -/
inductive Ensures (finished : α → Surroundings → Prop) (left : Surroundings → Nat → Prop) :
    Dialogue α → Surroundings → Prop where
  | done {result : α} {surroundings : Surroundings} (holds : finished result surroundings) :
    Ensures finished left (.done result) surroundings
  | exit {code : Nat} {surroundings : Surroundings} (holds : left surroundings code) :
    Ensures finished left (.exit code) surroundings
  | print {text : String} {next : Dialogue α} {surroundings : Surroundings}
    (later : Ensures finished left next { surroundings with output := surroundings.output ++ text }) :
    Ensures finished left (.print text next) surroundings
  | remark {text : String} {next : Dialogue α} {surroundings : Surroundings}
    (later : Ensures finished left next { surroundings with remarks := surroundings.remarks ++ text }) :
    Ensures finished left (.remark text next) surroundings
  | ask {next : String → Dialogue α} {surroundings : Surroundings}
    (later : Ensures finished left (next (String.ofList (Surroundings.line surroundings.input).1))
      { surroundings with input := (Surroundings.line surroundings.input).2 }) :
    Ensures finished left (.ask next) surroundings
  | load {path : String} {next : Except String String → Dialogue α} {surroundings : Surroundings}
    (later : Ensures finished left (next ((surroundings.read path).2.mapError FileError.message))
      (surroundings.read path).1) :
    Ensures finished left (.load path next) surroundings
  | save {path content : String} {next : Except String Unit → Dialogue α} {surroundings : Surroundings}
    (later : Ensures finished left (next ((surroundings.write path content).2.mapError FileError.message))
      (surroundings.write path content).1) :
    Ensures finished left (.save path content next) surroundings

namespace Ensures

theorem bind {dialogue : Dialogue α} {next : α → Dialogue β} {finished : β → Surroundings → Prop}
    {surroundings : Surroundings}
    (first : dialogue.Ensures (fun result => (next result).Ensures finished left) left surroundings) :
    (dialogue >>= next).Ensures finished left surroundings := by
  induction first with
  | done holds => exact holds
  | exit holds => exact .exit holds
  | print _ ih => exact .print ih
  | remark _ ih => exact .remark ih
  | ask _ ih => exact .ask ih
  | load _ ih => exact .load ih
  | save _ ih => exact .save ih

/-- What a dialogue ensures holds once it was conducted. A result counts as the exit code zero. -/
theorem conductIn {dialogue : Dialogue α} {surroundings : Surroundings}
    (ensured : dialogue.Ensures finished left surroundings)
    (passed : ∀ result after, finished result after → left after 0) :
    left (dialogue.conductIn surroundings).1 (dialogue.conductIn surroundings).2 := by
  induction ensured with
  | done holds => exact passed _ _ holds
  | exit holds => exact holds
  | print _ ih | remark _ ih | ask _ ih | load _ ih | save _ ih => exact ih

end Ensures

end Dialogue

namespace Program

variable {before reached ready written after : Surroundings} {identifiers : Identifiers} {arguments : List String}
  {options : Options} {description message text : String} {output : Option String} {code : Nat}

/-- Remarks may have been made and the input may have been read, but nothing else came of it. -/
structure Untouched (before after : Surroundings) : Prop where
  files : after.files = before.files
  output : after.output = before.output
  remarks : ∃ text, after.remarks = before.remarks ++ text

namespace Untouched

theorem refl (surroundings : Surroundings) : Untouched surroundings surroundings :=
  ⟨rfl, rfl, "", (String.append_empty).symm⟩

theorem trans (first : Untouched before reached) (second : Untouched reached after) : Untouched before after := by
  obtain ⟨earlier, former⟩ := first.remarks
  obtain ⟨later, latter⟩ := second.remarks
  refine ⟨second.files.trans first.files, second.output.trans first.output, earlier ++ later, ?_⟩
  rw [latter, former, String.append_assoc]

theorem remark (surroundings : Surroundings) (text : String) :
    Untouched surroundings { surroundings with remarks := surroundings.remarks ++ text } :=
  ⟨rfl, rfl, text, rfl⟩

theorem listen (surroundings : Surroundings) (input : List Char) : Untouched surroundings { surroundings with input } :=
  ⟨rfl, rfl, "", (String.append_empty).symm⟩

theorem read (surroundings : Surroundings) (path : String) : Untouched surroundings (surroundings.read path).1 := by
  unfold Surroundings.read
  repeat' split
  all_goals first | exact refl surroundings | exact listen surroundings []

end Untouched

/-- A run that was given up, with the reason as its last remark. -/
structure Refused (message : String) (before after : Surroundings) : Prop extends Untouched before after where
  told : ∃ earlier, after.remarks = earlier ++ ("\nError: " ++ message ++ "\n")

/-- A text was printed, or stored at the path that was asked for. -/
inductive Delivered (text : String) (before after : Surroundings) : Option String → Prop where
  | printed (files : after.files = before.files) (output : after.output = before.output ++ (text ++ "\n")) :
    Delivered text before after none
  | stored {path : String} (stored : before.Stored path text after) : Delivered text before after (some path)

theorem Delivered.widen (delivered : Delivered text ready written output) (prior : Untouched before ready)
    (later : Untouched written after) : Delivered text before after output := by
  cases delivered with
  | printed files output =>
    exact .printed (later.files.trans (files.trans prior.files)) (by rw [later.output, output, prior.output])
  | stored stored => exact .stored (stored.of_files prior.files prior.output later.files later.output)

/-! Each part of the program goes on untouched, delivers, or gives the run up. -/

section Parts

variable {α ε : Type} {finished : α → Surroundings → Prop} {left : Surroundings → Nat → Prop}

theorem ensures_fail (untouched : Untouched before reached)
    (refused : ∀ after, Refused message before after → left after 1) :
    (fail message : Dialogue α).Ensures finished left reached :=
  .remark (.exit (refused _ { untouched.trans (.remark reached _) with told := ⟨reached.remarks, rfl⟩ }))

theorem ensures_orFail {explain : ε → String} {result : Except ε α} (untouched : Untouched before reached)
    (passed : ∀ value, result = .ok value → finished value reached)
    (refused : ∀ error after, result = .error error → Refused (explain error) before after → left after 1) :
    (orFail explain result).Ensures finished left reached := by
  cases result with
  | ok value => exact .done (passed value rfl)
  | error error => exact ensures_fail untouched fun after => refused error after rfl

/-- The configuration that a path stands for. -/
def configured (surroundings : Surroundings) : Option String → Except ConfigurationError Configuration
  | none => Configuration.standard
  | some path =>
    match (surroundings.read path).2 with
    | .ok text => Configuration.ofText text
    | .error error => .error (.unreadable path error.message)

theorem ensures_configuration {finished : Except ConfigurationError Configuration → Surroundings → Prop}
    {path? : Option String}
    (read : ∀ reached, Untouched before reached → finished (configured before path?) reached) :
    (configuration path?).Ensures finished left before := by
  cases path? with
  | none => exact .done (read before (.refl before))
  | some path =>
    have reached := read _ (.read before path)
    refine .load ?_
    cases content : (before.read path).2 with
    | ok | error =>
      simp only [configured, content] at reached
      exact .done reached

theorem ensures_deliver {finished : Unit → Surroundings → Prop} (untouched : Untouched before ready)
    (delivered : ∀ after, Delivered text before after output → finished () after)
    (refused : ∀ path error after, output = some path → (before.write path text).2 = .error error →
      Refused ("Failed to write workflow to '" ++ path ++ "': " ++ error.message) before after → left after 1) :
    (deliver output text).Ensures finished left ready := by
  cases output with
  | none =>
    have printed : Delivered text ready { ready with output := ready.output ++ (text ++ "\n") } none := .printed rfl rfl
    exact .print (.done (delivered _ (printed.widen untouched (.refl _))))
  | some path =>
    refine .save ?_
    cases outcome : (ready.write path text).2 with
    | ok _ =>
      have stored : Delivered text ready (ready.write path text).1 (some path) :=
        .stored (Surroundings.stored_write (Prod.ext rfl outcome))
      exact .remark (.done (delivered _ (stored.widen untouched (.remark _ _))))
    | error error =>
      have unwritten : (before.write path text).2 = .error error :=
        (Surroundings.write_error_of_files untouched.files path text).symm.trans outcome
      rw [Surroundings.write_error outcome]
      exact ensures_fail untouched fun after => refused path error after rfl unwritten

theorem ensures_ask {finished : String → Surroundings → Prop} {question : String} {known : Option String}
    (answered : ∀ reached, Untouched before reached → reached.input = (Surroundings.line before.input).2 →
      finished (answer known (String.ofList (Surroundings.line before.input).1)) reached) :
    (ask question known).Ensures finished left before :=
  .remark (.ask (.done (answered _ ((Untouched.remark before _).trans (.listen _ _)) rfl)))

end Parts

/-- How generating a workflow ends. -/
inductive Generates (identifiers : Identifiers) (options : Options) (description : String)
    (before after : Surroundings) : Nat → Prop where
  | misconfigured (error : ConfigurationError) (configured : configured before options.configuration = .error error)
    (refused : Refused ("Invalid configuration: " ++ error.message) before after) :
    Generates identifiers options description before after 1
  | misstated (configuration : Configuration) (error : OverrideError)
    (configured : configured before options.configuration = .ok configuration)
    (misstated : Overrides.ofTexts options.parameters = .error error) (refused : Refused error.message before after) :
    Generates identifiers options description before after 1
  | undelivered (configuration : Configuration) (overrides : Overrides) (path : String) (error : FileError)
    (configured : configured before options.configuration = .ok configuration)
    (stated : Overrides.ofTexts options.parameters = .ok overrides) (output : options.output = some path)
    (unwritten :
      let generation := generation identifiers options configuration overrides description
      (before.write path (generation.workflow.toText configuration.output.jsonIndentation.toNat)).2 = .error error)
    (refused : Refused ("Failed to write workflow to '" ++ path ++ "': " ++ error.message) before after) :
    Generates identifiers options description before after 1
  | delivered (configuration : Configuration) (overrides : Overrides) (generation : Generation)
    (configured : configured before options.configuration = .ok configuration)
    (stated : Overrides.ofTexts options.parameters = .ok overrides)
    (generated : generation = Program.generation identifiers options configuration overrides description)
    (delivered : Delivered (generation.workflow.toText configuration.output.jsonIndentation.toNat) before after
      options.output)
    (told : ∃ earlier, after.remarks = earlier ++ remarks (options.has .report) generation.report) :
    Generates identifiers options description before after (if generation.isExecutable then 0 else 2)

theorem ensures_generate {finished : Unit → Surroundings → Prop} {left : Surroundings → Nat → Prop}
    (generates : ∀ code after, Generates identifiers options description before after code → left after code) :
    (generate identifiers options description).Ensures finished left before := by
  refine .bind (ensures_configuration fun reached untouched => ?_)
  refine .bind (ensures_orFail untouched (fun configuration configured => ?_) fun error after configured refused =>
    generates _ _ (.misconfigured error configured refused))
  refine .bind (ensures_orFail untouched (fun overrides stated => ?_) fun error after misstated refused =>
    generates _ _ (.misstated configuration error configured misstated refused))
  refine .bind (ensures_deliver untouched (fun after delivered => ?_) fun path error after output unwritten refused =>
    generates _ _ (.undelivered configuration overrides path error configured stated output unwritten refused))
  refine .bind (.remark (.done ?_))
  have ends := generates _ _ (.delivered configuration overrides _ configured stated rfl
    (delivered.widen (.refl before) (.remark after _)) ⟨after.remarks, rfl⟩)
  split_ifs at ends ⊢ with executable
  · exact .exit ends
  · exact .exit ends

theorem Generates.untouched (generates : Generates identifiers options description before after 1) :
    Untouched before after := by
  generalize one : 1 = code at generates
  cases generates with
  | misconfigured _ _ refused | misstated _ _ _ _ refused | undelivered _ _ _ _ _ _ _ _ refused =>
    exact refused.toUntouched
  | delivered => split_ifs at one; contradiction

theorem Generates.delivered_of_zero (generates : Generates identifiers options description before after 0) :
    ∃ configuration overrides, configured before options.configuration = .ok configuration ∧
      Overrides.ofTexts options.parameters = .ok overrides ∧
      let generation := generation identifiers options configuration overrides description
      generation.isExecutable ∧
        Delivered (generation.workflow.toText configuration.output.jsonIndentation.toNat) before after
          options.output := by
  generalize zero : 0 = code at generates
  cases generates with
  | misconfigured | misstated | undelivered => contradiction
  | delivered configuration overrides generation configured stated generated delivered _ =>
    subst generated
    split_ifs at zero with executable
    exact ⟨configuration, overrides, configured, stated, executable, delivered⟩

/-! Runs. -/

/-- The input that is left after some lines. -/
def heard (surroundings : Surroundings) (lines : Nat) : List Char :=
  (fun input => (Surroundings.line input).2)^[lines] surroundings.input

/-- A line that the user types, counted from none. -/
def typed (surroundings : Surroundings) (turn : Nat) : String :=
  String.ofList (Surroundings.line (heard surroundings turn)).1

/-- What is to be generated by a run, and the surroundings in which that is known. -/
inductive Request (arguments : List String) (before : Surroundings) : Options → String → Surroundings → Prop where
  | argued {options : Options} {description : String} (read : Options.ofArguments? arguments = some options)
    (alone : options.has .human = false) (described : options.description = some description) :
    Request arguments before options description before
  | conversed {options : Options} {reached : Surroundings} (read : Options.ofArguments? arguments = some options)
    (asked : options.has .human = true) (described : answer options.description (typed before 0) ≠ "")
    (untouched : Untouched before reached) (input : reached.input = heard before 3) :
    Request arguments before
      (answered options (answer options.purpose (typed before 1)) (answer options.output (typed before 2)))
      (answer options.description (typed before 0)) reached

theorem Request.untouched (request : Request arguments before options description reached) : Untouched before reached := by
  cases request with
  | argued => exact .refl before
  | conversed _ _ _ untouched => exact untouched

/-- How a run of the program ends. -/
inductive Ends (identifiers : Identifiers) (arguments : List String) (before after : Surroundings) : Nat → Prop where
  | misused (unread : Options.ofArguments? arguments = none) (untouched : Untouched before after) :
    Ends identifiers arguments before after 2
  | undescribed (options : Options) (read : Options.ofArguments? arguments = some options)
    (alone : options.has .human = false) (undescribed : options.description = none)
    (refused : Refused "A description is required in non-interactive mode." before after) :
    Ends identifiers arguments before after 1
  | unanswered (options : Options) (read : Options.ofArguments? arguments = some options)
    (asked : options.has .human = true) (unanswered : answer options.description (typed before 0) = "")
    (refused : Refused "A description is required." before after) : Ends identifiers arguments before after 1
  | generated {code : Nat} (options : Options) (description : String) (reached : Surroundings)
    (request : Request arguments before options description reached)
    (generates : Generates identifiers options description reached after code) :
    Ends identifiers arguments before after code

theorem ensures_converse {finished : Unit → Surroundings → Prop}
    (read : Options.ofArguments? arguments = some options) (asked : options.has .human = true) :
    (converse identifiers options).Ensures finished (Ends identifiers arguments before) before := by
  refine .bind (.remark (.done (.bind (ensures_ask fun first untouched input => ?_))))
  replace untouched : Untouched before first := (Untouched.remark before _).trans untouched
  dsimp only
  split_ifs with empty
  · exact .bind (ensures_fail untouched fun after => .unanswered options read asked empty)
  · refine .bind (ensures_ask fun second untouched' input' => .bind (ensures_ask fun third untouched'' input'' => ?_))
    rw [input', input]
    rw [input', input] at input''
    exact ensures_generate fun code after => .generated _ _ third
      (.conversed read asked empty (untouched.trans (untouched'.trans untouched'')) input'')

theorem ensures_run (identifiers : Identifiers) (arguments : List String) (before : Surroundings) :
    (run identifiers arguments).Ensures (fun _ _ => False) (Ends identifiers arguments before) before := by
  unfold run
  cases read : Options.ofArguments? arguments with
  | none => exact .remark (.exit (.misused read (.remark before _)))
  | some options =>
    dsimp only
    split_ifs with asked
    · exact ensures_converse read asked
    · rw [Bool.not_eq_true] at asked
      cases described : options.description with
      | none => exact ensures_fail (.refl before) fun after => .undescribed options read asked described
      | some description =>
        exact ensures_generate fun code after => .generated options description before (.argued read asked described)

theorem ends_run (conducted : (run identifiers arguments).conductIn before = (after, code)) :
    Ends identifiers arguments before after code := by
  have ends := (ensures_run identifiers arguments before).conductIn fun _ _ impossible => impossible.elim
  rwa [conducted] at ends

/-- A run that ends with exit code one has printed nothing and has written no file. -/
theorem untouched_run (conducted : (run identifiers arguments).conductIn before = (after, 1)) :
    Untouched before after := by
  cases ends_run conducted with
  | undescribed _ _ _ _ refused | unanswered _ _ _ _ refused => exact refused.toUntouched
  | generated _ _ _ request generates => exact request.untouched.trans generates.untouched

/-- A run that ends with exit code zero has delivered a workflow that can be run, and nothing else. -/
theorem delivered_run (conducted : (run identifiers arguments).conductIn before = (after, 0)) :
    ∃ options description reached configuration overrides, Request arguments before options description reached ∧
      configured reached options.configuration = .ok configuration ∧
      Overrides.ofTexts options.parameters = .ok overrides ∧
      let generation := generation identifiers options configuration overrides description
      generation.isExecutable ∧
        Delivered (generation.workflow.toText configuration.output.jsonIndentation.toNat) before after
          options.output := by
  cases ends_run conducted with
  | generated options description reached request generates =>
    obtain ⟨configuration, overrides, configured, stated, executable, delivered⟩ := generates.delivered_of_zero
    exact ⟨options, description, reached, configuration, overrides, request, configured, stated, executable,
      delivered.widen request.untouched (.refl after)⟩

end Program

end WorkflowSynthesis
