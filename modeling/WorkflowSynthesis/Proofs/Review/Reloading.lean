import WorkflowSynthesis.Proofs.Generator
import WorkflowSynthesis.Proofs.Notes.Contents
import WorkflowSynthesis.Proofs.Plan.Recovery

/-!
A generated workflow that is written and read is reviewed as it was before notes were stuck to it, although neither
roles nor keys are written, handlers come back as actions and the notes are reviewed, too.
-/

namespace WorkflowSynthesis

theorem Identifiers.Proper.after {identifiers : Identifiers} (proper : identifiers.Proper) (drawn : Nat) :
    (identifiers.after drawn).Proper where
  distinct _ _ same := Nat.add_left_cancel (proper.distinct same)
  visible index := proper.visible (drawn + index)

namespace Review

section Standard

variable {configuration : Configuration} {identifiers : Identifiers} {name : String}
variable {classification : Classification} {overrides : Overrides} {services : List String}
variable (follows : configuration.Follows {}) (reads : configuration.vocabulary.Reads classification)

include follows reads

theorem recoverable_build :
    ∀ node ∈ (Workflow.build configuration identifiers name
        (Plan.ofClassification configuration classification overrides services).steps).1.nodes,
      node.step.Recoverable configuration.catalog := by
  intro node member
  rw [follows.catalog_standard]
  rcases origin_build node member with ⟨step, planned, _, same⟩ | ⟨source, outputs, output, same⟩
  · exact (Plan.recoverable_steps follows reads planned).of_core same
  · exact (Step.recoverable_branchEnd source outputs output).of_core same

theorem proper_build (proper : overrides.Proper) :
    ∀ node ∈ (Workflow.build configuration identifiers name
        (Plan.ofClassification configuration classification overrides services).steps).1.nodes,
      (Json.object node.step.parameters).Proper := by
  obtain ⟨bound, room, fits⟩ := proper.exists_fits
  intro node member
  exact (fits_build (Nat.le_trans (by decide) room)
    (fun step planned => Plan.fits_steps follows reads room fits planned) node member).1

/-- A handler is planned for an action. -/
theorem handled_build :
    let workflow := (Workflow.build configuration identifiers name
      (Plan.ofClassification configuration classification overrides services).steps).1
    (∃ node ∈ workflow.nodes, node.role = .errorHandler) → ∃ node ∈ workflow.nodes, node.role = .action := by
  rintro workflow ⟨node, member, handles⟩
  rcases origin_build node member with ⟨step, planned, _, same⟩ | ⟨source, outputs, output, same⟩
  · have role : step.role = .errorHandler := by
      have kept : node.role = step.role := congrArg (·.role) same
      rw [← kept, handles]
    rw [Plan.steps_ofClassification, List.mem_append] at planned
    rcases planned with called | handler
    · exact absurd role (Plan.role_called_ne_errorHandler follows reads called)
    · obtain ⟨_, pattern, _, index, guarded, place, prone, rfl⟩ := Plan.mem_handlers.mp handler
      have called := List.mem_of_getElem? place
      have action := Plan.role_of_mayFail follows reads called prone
      have listed : guarded ∈ (Plan.ofClassification configuration classification overrides services).steps :=
        List.mem_append_left _ called
      exact action ▸ exists_node_build listed (by rw [action]; decide)
  · have role : node.role = .action := congrArg (·.role) same
    exact absurd (role.symm.trans handles) (by decide)

/-- Whether a drawing is reviewed against its plan or alone, it ends the same. -/
theorem check_alone {rule : Rule} (later : rule.category ≠ .preGeneration) :
    let plan := Plan.ofClassification configuration classification overrides services
    let workflow := (Workflow.build configuration identifiers name plan.steps).1
    (check configuration workflow none rule).passed = (check configuration workflow (some plan) rule).passed := by
  intro plan workflow
  cases rule with
  | parseTextDescription | identifyComponents | mapBusinessLogic | planErrorHandling => exact absurd rfl later
  | allActionsImplemented =>
    have typed : ∀ node ∈ workflow.nodes, Text.isBlankText node.nodeType = false := fun node member =>
      (recoverable_build follows reads node member).typed
    exact (allActionsImplemented_of_typed typed).trans (allActionsImplemented_build plan.diagnostics).symm
  | _ => rfl

section Noted

variable {source : Identifiers} {settings : NoteSettings} {added : List Node} {notes : List Note}
variable (stuck : Attachment.Stuck settings source
  (Workflow.build configuration identifiers name
    (Plan.ofClassification configuration classification overrides services).steps).1.nodes added notes)
include stuck

/-- Notes change no verdict on a drawing, whose connections resolve without them. -/
theorem check_withNotes_build (checked : configuration.Checked) (visible : ∀ index, Text.isBlankText (source index) = false)
    (proper : overrides.Proper) :
    let workflow := (Workflow.build configuration identifiers name
      (Plan.ofClassification configuration classification overrides services).steps).1
    (workflow.withNotes added).nodes.length < 2 ^ 64 → ∀ rule,
      (check configuration (workflow.withNotes added) none rule).passed =
        (check configuration workflow none rule).passed := by
  intro workflow short rule
  by_cases connections : rule = .verifyConnectionIntegrity
  · obtain ⟨trigger, planned, isTrigger⟩ :=
      Plan.exists_trigger configuration classification overrides services checked.catalog
    have resolves : (verifyConnectionIntegrity workflow).passed = true := verifyConnectionIntegrity_build planned isTrigger
    have stillResolves : (verifyConnectionIntegrity (workflow.withNotes added)).passed = true :=
      verifyConnectionIntegrity_withNotes.mpr fun id mentioned =>
        .inl (verifyConnectionIntegrity_passed_iff.mp resolves id mentioned)
    rw [connections]
    exact stillResolves.trans resolves.symm
  · have few : workflow.nodes.length + notes.length < 2 ^ 64 := by
      rw [← stuck.shown.length_eq, ← List.length_append]
      exact short
    exact check_withNotes follows stuck visible (proper_build follows reads proper) few connections

theorem recoverable_withNotes_build :
    ∀ node ∈ ((Workflow.build configuration identifiers name
        (Plan.ofClassification configuration classification overrides services).steps).1.withNotes added).nodes,
      node.step.Recoverable configuration.catalog := by
  refine List.forall_mem_append.mpr ⟨recoverable_build follows reads, fun node member => ?_⟩
  obtain ⟨note, shows⟩ := stuck.exists_step member
  rw [shows, follows.catalog_standard]
  exact Step.recoverable_note settings node.name note

theorem proper_withNotes_build (proper : overrides.Proper) :
    ∀ node ∈ ((Workflow.build configuration identifiers name
        (Plan.ofClassification configuration classification overrides services).steps).1.withNotes added).nodes,
      (Json.object node.step.parameters).Proper :=
  List.forall_mem_append.mpr ⟨proper_build follows reads proper, fun _ member => (stuck.parameters member).1⟩

/-- What the caller's parameters do not nest too deep is read. -/
theorem ofText_withNotes_build (fits : ∀ entry ∈ overrides.entries, (Json.object entry.2).Fits 124) (width : Nat) :
    let workflow := (Workflow.build configuration identifiers name
      (Plan.ofClassification configuration classification overrides services).steps).1
    Workflow.ofText ((workflow.withNotes added).toText width) = .ok (workflow.withNotes added).recovered := by
  intro workflow
  have drawn : ∀ node ∈ workflow.nodes, (Json.object node.step.parameters).Fits 124 :=
    fits_build (by decide) fun step planned => Plan.fits_steps follows reads (by decide) fits planned
  have inside : ∀ node ∈ (workflow.withNotes added).nodes, (Json.object node.step.parameters).depth ≤ 124 :=
    List.forall_mem_append.mpr
      ⟨fun node member => (drawn node member).2, fun node member => (stuck.parameters member).2.trans (by decide)⟩
  rw [Workflow.ofText_toText_of_proper (proper_withNotes_build follows reads stuck fun entry held => (fits entry held).1)]
  exact if_pos (Workflow.depth_toJson_le (by decide) inside)

/-- Neither writing nor reading changes a verdict on a drawing, notes or not. -/
theorem check_recovered_build (proper : overrides.Proper) (rule : Rule) :
    let workflow := (Workflow.build configuration identifiers name
      (Plan.ofClassification configuration classification overrides services).steps).1
    (check configuration (workflow.withNotes added).recovered none rule).passed =
      (check configuration (workflow.withNotes added) none rule).passed := by
  intro workflow
  refine check_recovered (recoverable_withNotes_build follows reads stuck)
    (proper_withNotes_build follows reads stuck proper) ?_ rule
  rintro ⟨node, member, handles⟩
  have drawn : node ∈ workflow.nodes := (List.mem_append.mp member).resolve_right fun noted => by
    simp [stuck.role noted] at handles
  obtain ⟨other, listed, acts⟩ := handled_build follows reads ⟨node, drawn, handles⟩
  exact ⟨other, List.mem_append_left _ listed, acts⟩

/-- What runs in a drawing with notes runs in what is read of it. -/
theorem executableCount_recovered_build :
    let workflow := (Workflow.build configuration identifiers name
      (Plan.ofClassification configuration classification overrides services).steps).1
    (workflow.withNotes added).recovered.executableCount = workflow.executableCount := by
  intro workflow
  rw [Workflow.executableCount, Workflow.executableCount,
    executableNodes_recovered (recoverable_withNotes_build follows reads stuck), List.length_map,
    executableNodes_withNotes stuck]

end Noted

end Standard

end Review

namespace Generator

/-- A generated workflow is the drawing with notes: without documentation none, else one for the start, one at most for
every node, and those of the caller. -/
theorem exists_notes_generate (generator : Generator) (description : String) (context : GenerationContext)
    (bare : ∀ node ∈ (generator.draw description context).1.nodes, node.isExecutable = true) :
    ∃ added notes,
      (generator.generate description context).workflow = (generator.draw description context).1.withNotes added ∧
        Attachment.Stuck generator.configuration.notes
            (generator.identifiers.after (generator.draw description context).2)
            (generator.draw description context).1.nodes added notes ∧
          notes.length ≤ (generator.draw description context).1.nodes.length + context.notes.length + 1 := by
  cases documented : generator.documents with
  | false =>
    refine ⟨[], [], ?_, .nil _, Nat.zero_le _⟩
    simp [generate, documented, Workflow.withNotes]
  | true =>
    have running : (generator.draw description context).1.executableNodes = (generator.draw description context).1.nodes :=
      List.filter_eq_self.mpr bare
    obtain ⟨added, same, stuck⟩ := Workflow.exists_attach_eq generator.configuration
      (generator.identifiers.after (generator.draw description context).2) (generator.draw description context).1
      (Documentation.ofWorkflow generator.configuration (generator.draw description context).1
        (generator.documentationContext description context))
    rw [Attachment.withoutAnnotations_eq bare] at same
    rw [running] at stuck
    refine ⟨added, _, ?_, stuck, ?_⟩
    · rw [← same]
      simp [generate, documented, Workflow.annotate]
    · rw [Documentation.notes_ofWorkflow, List.length_cons, List.length_append, List.length_map, running]
      exact Nat.succ_le_succ (Nat.add_le_add_right (List.length_filterMap_le _ _) _)

/-- Every service and every note of the caller adds few nodes. -/
theorem length_nodes_generate_le {generator : Generator} (follows : generator.configuration.Follows {})
    {description : String} (reads : generator.configuration.vocabulary.Reads (generator.classify description))
    (context : GenerationContext) : (generator.generate description context).workflow.nodes.length ≤
      75 + 8 * context.services.length + context.notes.length := by
  have bare : ∀ node ∈ (generator.draw description context).1.nodes, node.isExecutable = true := Review.isExecutable_build
  obtain ⟨added, notes, noted, stuck, few⟩ := exists_notes_generate generator description context bare
  have drawn : (generator.draw description context).1.nodes.length ≤ 36 + 4 * context.services.length + 1 := by
    rw [← List.filter_eq_self.mpr bare]
    exact Review.length_executableNodes_le.trans (Nat.succ_le_succ (Plan.sum_span_le follows reads context.services))
  rw [noted, Workflow.withNotes, List.length_append, stuck.shown.length_eq]
  omega

section Read

variable {generator : Generator} {description : String} {context : GenerationContext}
variable (follows : generator.configuration.Follows {})
  (reads : generator.configuration.vocabulary.Reads (generator.classify description))
include follows reads

theorem recoverable_generate : ∀ node ∈ (generator.generate description context).workflow.nodes,
    node.step.Recoverable generator.configuration.catalog := by
  obtain ⟨added, notes, noted, stuck, _⟩ :=
    exists_notes_generate generator description context Review.isExecutable_build
  rw [noted]
  exact Review.recoverable_withNotes_build follows reads stuck

/-- If the text of a generated workflow is read, then as what is left of it. -/
theorem recovered_eq_of_ofText (proper : context.overrides.Proper) {width : Nat} {reloaded : Workflow}
    (read : Workflow.ofText ((generator.generate description context).workflow.toText width) = .ok reloaded) :
    (generator.generate description context).workflow.recovered = reloaded := by
  obtain ⟨added, notes, noted, stuck, _⟩ :=
    exists_notes_generate generator description context Review.isExecutable_build
  have written : ∀ node ∈ (generator.generate description context).workflow.nodes,
      (Json.object node.step.parameters).Proper := by
    rw [noted]
    exact Review.proper_withNotes_build follows reads stuck proper
  rw [Workflow.ofText_toText_of_proper written] at read
  split at read <;> cases read
  rfl

/-- The text of a generated workflow is read if the parameters of the caller do not nest too deep. -/
theorem ofText_toText_generate (fits : ∀ entry ∈ context.overrides.entries, (Json.object entry.2).Fits 124) (width : Nat) :
    Workflow.ofText ((generator.generate description context).workflow.toText width) =
      .ok (generator.generate description context).workflow.recovered := by
  obtain ⟨added, notes, noted, stuck, _⟩ :=
    exists_notes_generate generator description context Review.isExecutable_build
  rw [noted]
  exact Review.ofText_withNotes_build follows reads stuck fits width

end Read

/-- Under the standard settings, with numbered identifiers, every description and everything that a caller may say:
if the text of the generated workflow can be read, then the review of what is read ends for all rules after planning as
the report did, although that report is on the drawing without notes and knew the plan. The names of notes stay short
enough while the nodes can be counted with 64 bits, as those of every list in memory can. -/
theorem review_reload :
    ∃ configuration, Configuration.standard = .ok configuration ∧
      ∀ (stem : String) (drawn : Nat) (documents : Bool) (description : String) (context : GenerationContext),
        context.overrides.Proper →
          let identifiers := (Identifiers.sequential stem).after drawn
          let generator : Generator := { configuration, identifiers, documents }
          let generation := generator.generate description context
          generation.workflow.nodes.length < 2 ^ 64 → ∀ width reloaded,
            Workflow.ofText (generation.workflow.toText width) = .ok reloaded →
              (∀ rule, rule.category ≠ .preGeneration →
                reloaded.outcome? configuration rule = (generation.report.verdict? rule).map (·.passed)) ∧
                (reloaded.review configuration none).nodeCount = generation.report.nodeCount := by
  obtain ⟨configuration, accepted⟩ := Configuration.exists_standard
  refine ⟨configuration, accepted, fun stem drawn documents description context proper => ?_⟩
  intro identifiers generator generation short width reloaded read
  have follows := Configuration.follows_of_ofSettings accepted
  have reads : configuration.vocabulary.Reads (configuration.vocabulary.classify description) :=
    Vocabulary.reads_classify description
  have visible : ∀ index, Text.isBlankText (identifiers.after (generator.draw description context).2 index) = false :=
    (((Identifiers.proper_sequential stem).after drawn).after _).visible
  obtain ⟨added, notes, noted, stuck, _⟩ :=
    exists_notes_generate generator description context Review.isExecutable_build
  have recovered : generation.workflow.recovered = reloaded := recovered_eq_of_ofText follows reads proper read
  have reported : generation.report = (generator.draw description context).1.review configuration
    (some (generator.plan description context)) := report_generate generator description context
  rw [← recovered, noted, reported]
  refine ⟨fun rule later => ?_, ?_⟩
  · rw [Workflow.outcome?_eq, Review.verdict?_review, Option.map_some, Option.some.injEq]
    calc (Review.check configuration ((generator.draw description context).1.withNotes added).recovered none rule).passed
        = (Review.check configuration ((generator.draw description context).1.withNotes added) none rule).passed :=
          Review.check_recovered_build follows reads stuck proper rule
      _ = (Review.check configuration (generator.draw description context).1 none rule).passed :=
          Review.check_withNotes_build follows reads stuck (Configuration.checked_of_ofSettings accepted) visible proper
            (noted ▸ short) rule
      _ = (Review.check configuration (generator.draw description context).1
            (some (generator.plan description context)) rule).passed := Review.check_alone follows reads later
  · rw [Review.nodeCount_review, Review.nodeCount_review]
    exact Review.executableCount_recovered_build follows reads stuck

/-- A caller who names a service of the vocabulary and one that no entry is for, and asks for a note. -/
def errand : GenerationContext where
  services := ["slack", "fax"]
  overrides := Dictionary.empty.insert "slack" [("channel", .text "#orders")]
  notes := [{ description := "Ask before changing.", anchor := some "Slack" }]

/-- What is generated for that caller is read. -/
theorem review_reload_errand :
    ∃ configuration, Configuration.standard = .ok configuration ∧
      let generator : Generator :=
        { configuration, identifiers := (Identifiers.sequential "node").after 7, documents := true }
      let generation := generator.generate "If the order is new, save it" errand
      generation.workflow.nodes.length < 2 ^ 64 ∧ ∃ reloaded,
        Workflow.ofText (generation.workflow.toText 2) = .ok reloaded ∧
          (∀ rule, rule.category ≠ .preGeneration →
            reloaded.outcome? configuration rule = (generation.report.verdict? rule).map (·.passed)) ∧
            (reloaded.review configuration none).nodeCount = generation.report.nodeCount := by
  obtain ⟨configuration, accepted, same⟩ := review_reload
  refine ⟨configuration, accepted, ?_⟩
  intro generator generation
  have follows := Configuration.follows_of_ofSettings accepted
  have reads : configuration.vocabulary.Reads (configuration.vocabulary.classify "If the order is new, save it") :=
    Vocabulary.reads_classify _
  have fits : ∀ entry ∈ errand.overrides.entries, (Json.object entry.2).Fits 124 := by decide
  have short : generation.workflow.nodes.length < 2 ^ 64 :=
    (length_nodes_generate_le follows reads errand).trans_lt (by decide)
  have read : Workflow.ofText (generation.workflow.toText 2) = .ok generation.workflow.recovered :=
    ofText_toText_generate follows reads fits 2
  exact ⟨short, _, read, same "node" 7 true _ errand (fun entry held => (fits entry held).1) short 2 _ read⟩

end Generator

end WorkflowSynthesis
