import WorkflowSynthesis.CommandLine.Override
import WorkflowSynthesis.Proofs.Checks
import WorkflowSynthesis.Proofs.Dictionary
import WorkflowSynthesis.Proofs.Parameters.Paths

/-!
What parameters on the command line come to. The first one that states nothing is refused; otherwise every field has the
value that was given last, in the order in which the fields of a key were first named.
-/

namespace WorkflowSynthesis

namespace Text

variable {separator : Char} {text before after : List Char}

theorem splitFirst?_cons (separator c : Char) (rest : List Char) :
    splitFirst? separator (c :: rest) =
      if c = separator then some ([], rest)
      else (splitFirst? separator rest).map fun parts => (c :: parts.1, parts.2) := by
  unfold splitFirst?
  by_cases same : c = separator
  · simp [same]
  · simp only [List.dropWhile_cons, List.takeWhile_cons, same, decide_not, decide_false, Bool.not_false, if_true, if_false]
    split <;> rfl

theorem splitFirst?_eq_none : splitFirst? separator text = none ↔ separator ∉ text := by
  induction text with
  | nil => simp [splitFirst?]
  | cons c rest ih =>
    rw [splitFirst?_cons, List.mem_cons, not_or]
    by_cases same : c = separator
    · simp [same]
    · simp [same, Ne.symm same, ih]

theorem splitFirst?_eq_some :
    splitFirst? separator text = some (before, after) ↔ text = before ++ separator :: after ∧ separator ∉ before := by
  induction text generalizing before with
  | nil => simp [splitFirst?]
  | cons c rest ih =>
    rw [splitFirst?_cons]
    cases before with
    | nil =>
      by_cases same : c = separator <;> simp [same]
    | cons first before =>
      by_cases same : c = separator
      · simp +contextual [same]
      · rw [if_neg same, Option.map_eq_some_iff]
        simp only [Prod.exists, Prod.mk.injEq, List.cons_append, List.cons.injEq, List.mem_cons, not_or]
        constructor
        · rintro ⟨_, _, found, ⟨rfl, rfl⟩, rfl⟩
          obtain ⟨shape, absent⟩ := ih.mp found
          exact ⟨⟨rfl, shape⟩, Ne.symm same, absent⟩
        · rintro ⟨⟨rfl, shape⟩, _, absent⟩
          exact ⟨before, after, ih.mpr ⟨shape, absent⟩, ⟨rfl, rfl⟩, rfl⟩

end Text

/-- What a parameter states. Up to its first equals sign, the first point divides key and field; what follows the sign is
the value, as JSON if it is that, and otherwise as it stands. -/
def Override.StatedBy (stated : Override) (parameter : String) : Prop :=
  ∃ key field value : List Char,
    parameter.toList = (key ++ '.' :: field) ++ '=' :: value ∧ '.' ∉ key ∧ '=' ∉ key ++ '.' :: field ∧
      stated.key = Text.trim (.ofList key) ∧ stated.field = Text.trim (.ofList field) ∧
        stated.value = (Json.parse? (.ofList value)).getD (.text (.ofList value))

/-- Whether an error tells what a parameter lacks: the equals sign, or a point before the first one. -/
def OverrideError.Blames (parameter : String) : OverrideError → Prop
  | .noValue named => named = parameter ∧ '=' ∉ parameter.toList
  | .noField named => named = parameter ∧
      ∃ path value, parameter.toList = path ++ '=' :: value ∧ '=' ∉ path ∧ '.' ∉ path

theorem OverrideError.exists_blames_iff {parameter : String} : (∃ error : OverrideError, error.Blames parameter) ↔
    '=' ∉ parameter.toList ∨ ∃ path value, parameter.toList = path ++ '=' :: value ∧ '=' ∉ path ∧ '.' ∉ path := by
  constructor
  · rintro ⟨noValue | noField, -, lacks⟩
    · exact .inl lacks
    · exact .inr lacks
  · rintro (lacks | lacks)
    · exact ⟨.noValue parameter, rfl, lacks⟩
    · exact ⟨.noField parameter, rfl, lacks⟩

namespace Override

variable {parameter : String}

theorem ofText_eq_ok {stated : Override} : ofText parameter = .ok stated ↔ stated.StatedBy parameter := by
  unfold ofText StatedBy
  constructor
  · intro read
    split at read
    · cases read
    · next path value cut =>
      split at read
      · cases read
      · next key field divided =>
        cases read
        obtain ⟨shape, plain⟩ := Text.splitFirst?_eq_some.mp cut
        obtain ⟨rfl, pointless⟩ := Text.splitFirst?_eq_some.mp divided
        exact ⟨key, field, value, shape, pointless, plain, rfl, rfl, rfl⟩
  · rintro ⟨key, field, value, shape, pointless, plain, sameKey, sameField, sameValue⟩
    rw [Text.splitFirst?_eq_some.mpr ⟨shape, plain⟩]
    dsimp only
    rw [Text.splitFirst?_eq_some.mpr ⟨rfl, pointless⟩]
    dsimp only [valueOfText]
    rw [← sameKey, ← sameField, ← sameValue]

theorem ofText_eq_error {error : OverrideError} : ofText parameter = .error error ↔ error.Blames parameter := by
  unfold ofText
  split
  · next uncut =>
    have absent := Text.splitFirst?_eq_none.mp uncut
    cases error with
    | noValue named => simp [OverrideError.Blames, absent, eq_comm]
    | noField named =>
      refine ⟨nofun, ?_⟩
      rintro ⟨_, path, value, shape, _⟩
      exact absurd (by simp [shape]) absent
  · next path value cut =>
    obtain ⟨shape, plain⟩ := Text.splitFirst?_eq_some.mp cut
    have present : '=' ∈ parameter.toList := by simp [shape]
    split
    · next undivided =>
      have pointless := Text.splitFirst?_eq_none.mp undivided
      cases error with
      | noValue named => simp [OverrideError.Blames, present]
      | noField named =>
        rw [Except.error.injEq, OverrideError.noField.injEq, eq_comm]
        exact ⟨fun same => ⟨same, path, value, shape, plain, pointless⟩, And.left⟩
    · next key field divided =>
      obtain ⟨rfl, -⟩ := Text.splitFirst?_eq_some.mp divided
      cases error with
      | noValue named => simp [OverrideError.Blames, present]
      | noField named =>
        refine ⟨nofun, ?_⟩
        rintro ⟨_, other, rest, otherShape, otherPlain, otherPointless⟩
        have same := Text.splitFirst?_eq_some.mpr ⟨otherShape, otherPlain⟩
        rw [cut] at same
        cases same
        simp at otherPointless

/-- What a parameter states is that or nothing. -/
theorem exists_statedBy_iff : (∃ stated : Override, stated.StatedBy parameter) ↔
    ¬∃ error : OverrideError, error.Blames parameter := by
  simp only [← ofText_eq_ok, ← ofText_eq_error]
  cases ofText parameter <;> simp

end Override

namespace Overrides

/-- What overrides hold if they were put together from what is stated one after another. -/
structure Collects (overrides : Overrides) (stated : List Override) : Prop where
  /-- A key is there if something is stated of it. -/
  keys : ∀ key, key ∈ overrides.keys ↔ ∃ single ∈ stated, single.key = key
  /-- Its fields come in the order in which they are first stated. -/
  fields : ∀ key, ((overrides.get? key).getD []).keys = ((stated.filter (·.key = key)).map (·.field)).eraseDups
  /-- A field has the value that is stated last. -/
  values : ∀ key field, ((overrides.get? key).getD []).value? field =
    ((stated.filter fun single => single.key = key ∧ single.field = field).getLast?).map (·.value)

namespace Collects

theorem empty : Collects .empty [] where
  keys key := by simp [Dictionary.keys, Dictionary.empty]
  fields key := rfl
  values key field := rfl

theorem put {overrides : Overrides} {stated : List Override} (collects : overrides.Collects stated) (single : Override) :
    (overrides.put single).Collects (stated ++ [single]) where
  keys key := by
    rw [Overrides.put, Dictionary.mem_keys_insert, collects.keys]
    simp [or_comm, eq_comm]
  fields key := by
    rw [Overrides.put, Dictionary.get?_insert, List.filter_append]
    by_cases same : key = single.key
    · subst same
      rw [if_pos rfl, Option.getD_some, Members.keys_put, collects.fields, List.filter_cons_of_pos (by simp),
        List.filter_nil, List.map_append, List.eraseDups_append]
      by_cases old : single.field ∈ (stated.filter (·.key = single.key)).map (·.field)
      · simp [List.removeAll, old]
      · simp [List.removeAll, old, List.eraseDups_cons]
    · rw [if_neg same, collects.fields, List.filter_cons_of_neg (by simpa using Ne.symm same), List.filter_nil,
        List.append_nil]
  values key field := by
    rw [Overrides.put, Dictionary.get?_insert, List.filter_append]
    by_cases addressed : key = single.key ∧ field = single.field
    · obtain ⟨rfl, rfl⟩ := addressed
      simp [Members.value?_put]
    · have other : ¬(single.key = key ∧ single.field = field) := fun ⟨sameKey, sameField⟩ =>
        addressed ⟨sameKey.symm, sameField.symm⟩
      rw [List.filter_cons_of_neg (by simpa using other), List.filter_nil, List.append_nil, ← collects.values]
      split
      · next same =>
        rw [Option.getD_some, Members.value?_put, if_neg fun sameField => addressed ⟨same, sameField⟩, same]
      · rfl

theorem foldl {overrides : Overrides} {before : List Override} (collects : overrides.Collects before)
    (stated : List Override) : (stated.foldl Overrides.put overrides).Collects (before ++ stated) := by
  induction stated generalizing overrides before with
  | nil => rwa [List.append_nil]
  | cons single rest ih =>
    rw [List.foldl_cons, List.append_cons]
    exact ih (collects.put single)

end Collects

theorem ofTexts_eq_error {parameters : List String} {error : OverrideError} :
    ofTexts parameters = .error error ↔ ∃ before parameter after, parameters = before ++ parameter :: after ∧
      (∀ earlier ∈ before, ¬∃ other : OverrideError, other.Blames earlier) ∧ error.Blames parameter := by
  unfold ofTexts
  rw [Except.bind_eq_error, Except.mapM_eq_error]
  simp only [Override.ofText_eq_ok, Override.ofText_eq_error, Override.exists_statedBy_iff, pure, Except.pure,
    reduceCtorEq, and_false, exists_false, or_false]

theorem exists_ofTexts_eq_ok {parameters : List String} : (∃ overrides, ofTexts parameters = .ok overrides) ↔
    ∀ parameter ∈ parameters, ¬∃ error : OverrideError, error.Blames parameter := by
  simp only [← Override.exists_statedBy_iff, ← Override.ofText_eq_ok, ← Except.exists_mapM]
  unfold ofTexts
  cases parameters.mapM Override.ofText <;> simp [bind, Except.bind, pure, Except.pure]

/-- Parameters are refused if one of them has no equals sign, or no point before its first one, and the error is that of
the first such parameter. Otherwise the overrides hold what the parameters state, and nothing else. -/
theorem collects_ofTexts (parameters : List String) :
    ((∃ error, ofTexts parameters = .error error) ↔
        ∃ parameter ∈ parameters, '=' ∉ parameter.toList ∨
          ∃ path value, parameter.toList = path ++ '=' :: value ∧ '=' ∉ path ∧ '.' ∉ path) ∧
      (∀ error, ofTexts parameters = .error error ↔
        ∃ before parameter after, parameters = before ++ parameter :: after ∧
          (∀ earlier ∈ before, ¬∃ other : OverrideError, other.Blames earlier) ∧ error.Blames parameter) ∧
        ∀ overrides, ofTexts parameters = .ok overrides →
          ∃ stated, List.Forall₂ (fun parameter single => Override.StatedBy single parameter) parameters stated ∧
            overrides.Collects stated := by
  refine ⟨?_, fun error => ofTexts_eq_error, fun overrides read => ?_⟩
  · have refused : (∃ error, ofTexts parameters = .error error) ↔ ¬∃ overrides, ofTexts parameters = .ok overrides := by
      cases ofTexts parameters <;> simp
    simp only [refused, exists_ofTexts_eq_ok, OverrideError.exists_blames_iff, not_forall, not_not, exists_prop]
  · obtain ⟨stated, each, put⟩ := Except.bind_eq_ok.mp read
    cases put
    refine ⟨stated, ?_, Collects.empty.foldl stated⟩
    exact (Except.mapM_eq_ok.mp each).imp fun _ _ => Override.ofText_eq_ok.mp

/-- A field that is given twice, once with spaces, and a value with both marks in it. -/
def repeatedParameters : List String := ["slack.channel=#a", "slack.text=x=y.z", " slack . channel =[true]"]

def repeatedOverrides : List Override :=
  [⟨"slack", "channel", .text "#a"⟩, ⟨"slack", "text", .text "x=y.z"⟩, ⟨"slack", "channel", .array [.bool true]⟩]

/-- The channel has its first place and its last value, and what has no point before its sign is refused. -/
theorem collects_ofTexts_repeated :
    (∃ overrides, ofTexts repeatedParameters = .ok overrides ∧
      let members := (overrides.get? "slack").getD []
      members.keys = ["channel", "text"] ∧ members.value? "channel" = some (.array [.bool true])) ∧
    ofTexts (repeatedParameters ++ ["slack=a.b"]) = .error (.noField "slack=a.b") := by
  obtain ⟨-, -, collects⟩ := collects_ofTexts repeatedParameters
  obtain ⟨-, refused, -⟩ := collects_ofTexts (repeatedParameters ++ ["slack=a.b"])
  have each : repeatedParameters.mapM Override.ofText = .ok repeatedOverrides := rfl
  have read : ofTexts repeatedParameters = .ok (repeatedOverrides.foldl put .empty) := by
    rw [ofTexts, each]
    rfl
  obtain ⟨stated, shown, collected⟩ := collects _ read
  have same : stated = repeatedOverrides := by
    have made := Except.mapM_eq_ok.mpr (shown.imp fun _ _ => Override.ofText_eq_ok.mpr)
    rw [each] at made
    exact (Except.ok.inj made).symm
  subst same
  refine ⟨⟨_, read, collected.fields "slack", collected.values "slack" "channel"⟩, (refused _).mpr ?_⟩
  have lacks : (OverrideError.noField "slack=a.b").Blames "slack=a.b" :=
    ⟨rfl, "slack".toList, "a.b".toList, rfl, by decide, by decide⟩
  exact ⟨repeatedParameters, "slack=a.b", [], rfl, exists_ofTexts_eq_ok.mp ⟨_, read⟩, lacks⟩

end Overrides

end WorkflowSynthesis
