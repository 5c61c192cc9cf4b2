import WorkflowSynthesis.Proofs.Plan.Recovery
import WorkflowSynthesis.Proofs.Review.Drawn

/-!
Planning and review on missing parameters. The plan notes what a step lacks of what its own entry requires, and the
review asks for what any entry found by key or type requires. Where entries of one type require the same, both find the
same steps incomplete. Handlers are not made from entries, and are complete only if their pattern sets what their type
requires.
-/

namespace WorkflowSynthesis

/-- Whether entries of one type require the same fields. -/
def Catalog.RequiresByType (catalog : Catalog) : Prop :=
  ∀ first ∈ catalog.entries.values, ∀ second ∈ catalog.entries.values, first.nodeType = second.nodeType →
    first.requiredFields ⊆ second.requiredFields

/-- Whether parameters have whatever entries of a type require. -/
def Catalog.Satisfied (catalog : Catalog) (nodeType : String) (parameters : Members) : Prop :=
  ∀ entry ∈ catalog.entries.values, entry.nodeType = nodeType →
    ∀ field ∈ entry.requiredFields, Parameters.isPresent parameters field = true

/-- Whether a step has all that the review asks of it. -/
def Step.Meets (catalog : Catalog) (step : Step) : Prop :=
  ∀ field, step.Requires catalog field → Parameters.isPresent step.parameters field = true

namespace Catalog

variable {catalog : Catalog}

theorem mem_of_entryOf? {key nodeType : String} {entry : CatalogEntry}
    (found : catalog.entryOf? key nodeType = some entry) :
    entry ∈ catalog.entries.values ∧ entry.nodeType = nodeType := by
  rcases Option.or_eq_some_iff.mp found with own | ⟨_, first⟩
  · obtain ⟨held, same⟩ := Option.filter_eq_some_iff.mp own
    exact ⟨List.mem_map_of_mem (Dictionary.get?_eq_some_iff.mp held), of_decide_eq_true same⟩
  · exact ⟨List.mem_of_find?_eq_some first, by simpa using List.find?_some first⟩

theorem isSome_entryOf? (key : String) {entry : CatalogEntry} (listed : entry ∈ catalog.entries.values) :
    (catalog.entryOf? key entry.nodeType).isSome = true := by
  have typed : (catalog.findByType? entry.nodeType).isSome = true :=
    List.find?_isSome.mpr ⟨entry, listed, decide_eq_true rfl⟩
  rw [entryOf?, Option.isSome_or, typed, Bool.or_true]

end Catalog

namespace Step

variable {catalog : Catalog}

/-- Where entries of one type require the same, the key of a step does not matter. -/
theorem requires_iff (byType : catalog.RequiresByType) {step : Step} {field : String} :
    step.Requires catalog field ↔ field ∈ step.requiredFields ∨
      ∃ entry ∈ catalog.entries.values, entry.nodeType = step.nodeType ∧ field ∈ entry.requiredFields := by
  refine or_congr_right ?_
  constructor
  · rintro ⟨entry, found, required⟩
    obtain ⟨listed, same⟩ := Catalog.mem_of_entryOf? found
    exact ⟨entry, listed, same, required⟩
  · rintro ⟨entry, listed, same, required⟩
    obtain ⟨twin, found⟩ := Option.isSome_iff_exists.mp (Catalog.isSome_entryOf? step.key listed)
    obtain ⟨alsoListed, alsoSame⟩ := Catalog.mem_of_entryOf? found
    exact ⟨twin, same ▸ found, byType entry listed twin alsoListed alsoSame.symm required⟩

/-- A step that requires nothing by itself has what it needs if its parameters satisfy its type. -/
theorem meets_of_free (byType : catalog.RequiresByType) {step : Step} (free : step.requiredFields = []) :
    step.Meets catalog ↔ catalog.Satisfied step.nodeType step.parameters := by
  simp only [Meets, requires_iff byType, free, List.not_mem_nil, false_or]
  constructor
  · intro meets entry listed same field required
    exact meets field ⟨entry, listed, same, required⟩
  · rintro satisfied field ⟨entry, listed, same, required⟩
    exact satisfied entry listed same field required

theorem Meets.of_core {step other : Step} (meets : other.Meets catalog) (same : step.core = other.core) :
    step.Meets catalog := by
  have nodeType : step.nodeType = other.nodeType := congrArg (·.nodeType) same
  have key : step.key = other.key := congrArg (·.key) same
  have required : step.requiredFields = other.requiredFields := congrArg (·.requiredFields) same
  have parameters : step.parameters = other.parameters := congrArg (·.parameters) same
  simpa only [Meets, Requires, nodeType, key, required, parameters] using meets

end Step

namespace Plan

variable {configuration : Configuration} {classification : Classification} {overrides : Overrides}
  {services : List String}

/-- A step that is called for has what the review asks of it if and only if it is complete. -/
theorem meets_called (checked : configuration.catalog.Checked) (byType : configuration.catalog.RequiresByType)
    {step : Step} (member : step ∈ calledSteps configuration classification overrides services) :
    step.Meets configuration.catalog ↔ step.isComplete = true := by
  obtain ⟨request, _, fromText, _, rfl⟩ := exists_request member
  obtain ⟨entry, listed, nodeType, _, required⟩ := exists_entry_stepOf checked request
  generalize ((overrides.get? (stepOf configuration.catalog request).key).getD []) = fromCaller
  generalize stepOf configuration.catalog request = step at nodeType required
  have asked : ∀ field, (step.withParameters fromText fromCaller).Requires configuration.catalog field ↔
      field ∈ step.requiredFields := by
    intro field
    rw [Step.requires_iff byType]
    constructor
    · rintro (own | ⟨other, alsoListed, same, further⟩)
      · exact own
      · rw [required]
        exact byType other alsoListed entry listed (same.trans nodeType) further
    · exact .inl
  have complete : (step.withParameters fromText fromCaller).isComplete = true ↔ ∀ field ∈ step.requiredFields,
      Parameters.isPresent (step.withParameters fromText fromCaller).parameters field = true := by
    simp [Step.isComplete, Step.withParameters, Parameters.missing]
  rw [complete]
  exact forall_congr' fun field => imp_congr_left (asked field)

theorem role_ne_note_of_mem_requests {request : Request}
    (member : request ∈ requests configuration classification services) : request.role ≠ .note := by
  rw [requests_eq, List.mem_cons, List.mem_append, List.mem_append] at member
  rcases member with rfl | (action | condition) | dataOp
  · exact nofun
  · rw [role_actions action]
    exact nofun
  · obtain ⟨_, _, rfl⟩ := List.mem_map.mp (Request.mem_fresh condition).1
    exact nofun
  · obtain ⟨_, _, rfl⟩ := List.mem_map.mp (Request.mem_fresh dataOp).1
    exact nofun

/-- A note is called for only if an entry of the catalog is one. -/
theorem role_called_ne_note (noNotes : ∀ entry ∈ configuration.catalog.entries.values, entry.role ≠ .note) {step : Step}
    (member : step ∈ calledSteps configuration classification overrides services) : step.role ≠ .note := by
  obtain ⟨request, listed, fromText, _, rfl⟩ := exists_request member
  cases found : configuration.catalog.get? request.key with
  | some entry =>
    simp only [stepOf, found]
    exact noNotes entry (List.mem_map_of_mem (Dictionary.get?_eq_some_iff.mp found))
  | none =>
    simp only [stepOf, found]
    exact role_ne_note_of_mem_requests listed

theorem meets_handlers (byType : configuration.catalog.RequiresByType) {pattern : FailurePattern}
    (found : configuration.failures.failurePattern? = some pattern) (steps : List Step) :
    (∀ handler ∈ handlers configuration.failures steps, handler.Meets configuration.catalog) ↔
      (configuration.failures.enabled = true → (∃ step ∈ steps, step.mayFail = true) →
        configuration.catalog.Satisfied pattern.nodeType pattern.parameters) := by
  constructor
  · rintro meets enabled ⟨step, member, prone⟩
    obtain ⟨index, place⟩ := List.mem_iff_getElem?.mp member
    have planned : handlerOf pattern index step ∈ handlers configuration.failures steps :=
      mem_handlers.mpr ⟨enabled, pattern, found, index, step, place, prone, rfl⟩
    exact (Step.meets_of_free byType rfl).mp (meets _ planned)
  · intro satisfied handler planned
    obtain ⟨enabled, other, alsoFound, index, step, place, prone, rfl⟩ := mem_handlers.mp planned
    obtain rfl : other = pattern := Option.some.inj (alsoFound.symm.trans found)
    exact (Step.meets_of_free byType rfl).mpr (satisfied enabled ⟨step, List.mem_of_getElem? place, prone⟩)

/-- All steps of a plan have what is asked of them if the steps that are called for are complete, and the pattern in use
sets what its type requires once it is used. -/
theorem meets_steps (checked : configuration.catalog.Checked) (byType : configuration.catalog.RequiresByType)
    (noNotes : ∀ entry ∈ configuration.catalog.entries.values, entry.role ≠ .note) {pattern : FailurePattern}
    (found : configuration.failures.failurePattern? = some pattern) :
    let steps := (ofClassification configuration classification overrides services).steps
    (∀ step ∈ steps, step.role ≠ .note → step.Meets configuration.catalog) ↔
      (∀ step ∈ steps, step.isComplete = true) ∧
        (configuration.failures.enabled = true ∧ (∃ step ∈ steps, step.mayFail = true) →
          configuration.catalog.Satisfied pattern.nodeType pattern.parameters) := by
  intro steps
  have split : steps = calledSteps configuration classification overrides services ++
      handlers configuration.failures (calledSteps configuration classification overrides services) :=
    steps_ofClassification _ _ _ _
  have byHandlers := meets_handlers byType found (calledSteps configuration classification overrides services)
  have prone : (∃ step ∈ steps, step.mayFail = true) ↔
      ∃ step ∈ calledSteps configuration classification overrides services, step.mayFail = true := by
    simp only [split, List.mem_append, or_and_right, exists_or, or_iff_left_iff_imp]
    rintro ⟨handler, planned, fails⟩
    rw [handlers_mayFail planned] at fails
    cases fails
  rw [prone, and_imp, ← byHandlers, split, List.forall_mem_append, List.forall_mem_append]
  have called : (∀ step ∈ calledSteps configuration classification overrides services, step.role ≠ .note →
      step.Meets configuration.catalog) ↔
        ∀ step ∈ calledSteps configuration classification overrides services, step.isComplete = true := by
    refine forall₂_congr fun step member => ?_
    rw [meets_called checked byType member]
    exact imp_iff_right (role_called_ne_note noNotes member)
  have further : (∀ handler ∈ handlers configuration.failures
        (calledSteps configuration classification overrides services), handler.role ≠ .note →
          handler.Meets configuration.catalog) ↔
      ∀ handler ∈ handlers configuration.failures (calledSteps configuration classification overrides services),
        handler.Meets configuration.catalog := by
    refine forall₂_congr fun handler planned => imp_iff_right ?_
    obtain ⟨_, _, _, _, _, _, _, rfl⟩ := mem_handlers.mp planned
    exact nofun
  have whole : ∀ handler ∈ handlers configuration.failures
      (calledSteps configuration classification overrides services), handler.isComplete = true := by
    intro handler planned
    obtain ⟨_, _, _, _, _, _, _, rfl⟩ := mem_handlers.mp planned
    rfl
  rw [called, further, and_iff_left whole]

end Plan

namespace Review

section Build

variable {configuration : Configuration} {identifiers : Identifiers} {name : String} {steps : List Step}

/-- No parameter is missing in the drawing of a plan if its steps have what is asked of them, provided that nothing is
asked of the ends of branches. -/
theorem checkMissingParameters_build (byType : configuration.catalog.RequiresByType)
    (ends : configuration.catalog.Satisfied Step.passThroughType []) :
    (checkMissingParameters configuration (Workflow.build configuration identifiers name steps).1).passed = true ↔
      ∀ step ∈ steps, step.role ≠ .note → step.Meets configuration.catalog := by
  rw [checkMissingParameters_passed]
  constructor
  · intro meets step member placed
    obtain ⟨node, listed, same⟩ : ∃ node ∈ (Workflow.build configuration identifiers name steps).1.nodes,
        node.step.core = step.core := Draft.exists_node _ member placed
    have runs := List.mem_filter.mpr ⟨listed, isExecutable_build node listed⟩
    have shown : node.step.Meets configuration.catalog := meets node runs
    exact shown.of_core same.symm
  · intro meets node runs
    have listed := (List.mem_filter.mp runs).1
    rcases origin_build node listed with ⟨step, planned, placed, same⟩ | ⟨source, outputs, output, same⟩
    · exact (meets step planned placed).of_core same
    · have free : (Step.branchEnd source outputs output).Meets configuration.catalog :=
        (Step.meets_of_free byType rfl).mpr ends
      exact free.of_core same

end Build

end Review

section Standard

variable {configuration : Configuration} (standard : configuration.catalog.entries = ({} : CatalogSettings).entries)
include standard

theorem Catalog.requiresByType_standard : configuration.catalog.RequiresByType := by
  rw [RequiresByType, standard]
  decide

theorem Catalog.satisfied_passThrough_standard : configuration.catalog.Satisfied Step.passThroughType [] := by
  rw [Satisfied, standard]
  decide

theorem Catalog.noNotes_standard : ∀ entry ∈ configuration.catalog.entries.values, entry.role ≠ .note := by
  rw [standard]
  decide

/-- Two of the standard patterns set whatever their type requires, the third one does not. -/
theorem FailurePolicy.satisfied_standard {key : String} {pattern : FailurePattern}
    (found : ({} : FailurePolicy).patterns.get? key = some pattern) :
    configuration.catalog.Satisfied pattern.nodeType pattern.parameters ↔ key ≠ "timeout" := by
  rw [Catalog.Satisfied, standard]
  have each : ∀ entry ∈ ({} : FailurePolicy).patterns.entries,
      ((∀ listed ∈ ({} : CatalogSettings).entries.values, listed.nodeType = entry.2.nodeType →
        ∀ field ∈ listed.requiredFields, Parameters.isPresent entry.2.parameters field = true) ↔ entry.1 ≠ "timeout") := by
    decide
  exact each _ (Dictionary.get?_eq_some_iff.mp found)

end Standard

/-- With the standard catalog, no parameter is missing in what is drawn from a plan if and only if every step is
complete and, if there are handlers, their pattern sets all that its type requires. Of the standard patterns only that
for timeouts does not. -/
theorem checkMissingParameters_of_build {settings : Settings} {engine : PatternEngine} {configuration : Configuration}
    (accepted : Configuration.ofSettings settings engine = .ok configuration)
    (standard : settings.catalog.entries = ({} : CatalogSettings).entries) (classification : Classification)
    (overrides : Overrides) (services : List String) (name : String) (identifiers : Identifiers) :
    let plan := Plan.ofClassification configuration classification overrides services
    let workflow := (Workflow.build configuration identifiers name plan.steps).1
    let passed := ((workflow.review configuration plan).verdict? .checkMissingParameters).map (·.passed)
    let complete := ∀ step ∈ plan.steps, step.isComplete = true
    let handled := settings.failures.enabled = true ∧ ∃ step ∈ plan.steps, step.mayFail = true
    ∃ pattern, settings.failures.patterns.get? settings.failures.pattern = some pattern ∧
      (passed = some true ↔
        complete ∧ (handled → configuration.catalog.Satisfied pattern.nodeType pattern.parameters)) ∧
      (settings.failures.patterns = ({} : FailurePolicy).patterns →
        (passed = some true ↔ complete ∧ (handled → settings.failures.pattern ≠ "timeout"))) := by
  intro plan workflow passed complete handled
  have checked := Configuration.checked_of_ofSettings accepted
  have follows := Configuration.follows_of_ofSettings accepted
  have entries : configuration.catalog.entries = ({} : CatalogSettings).entries := follows.entries.trans standard
  have byType := Catalog.requiresByType_standard entries
  obtain ⟨pattern, found⟩ := Option.isSome_iff_exists.mp checked.failurePattern
  have chosen : settings.failures.patterns.get? settings.failures.pattern = some pattern := by
    rw [← follows.failures]
    exact found
  have verdict : passed = some (Review.checkMissingParameters configuration workflow).passed := by
    change Option.map (·.passed) ((workflow.review configuration plan).verdict? .checkMissingParameters) = _
    rw [Review.verdict?_review]
    rfl
  have outcome : passed = some true ↔
      complete ∧ (handled → configuration.catalog.Satisfied pattern.nodeType pattern.parameters) := by
    rw [verdict, Option.some.injEq, Review.checkMissingParameters_build byType
      (Catalog.satisfied_passThrough_standard entries)]
    change _ ↔ complete ∧ ((settings.failures.enabled = true ∧ ∃ step ∈ plan.steps, step.mayFail = true) → _)
    rw [← follows.failures]
    exact Plan.meets_steps checked.catalog byType (Catalog.noNotes_standard entries) found
  refine ⟨pattern, chosen, outcome, fun shipped => ?_⟩
  rw [shipped] at chosen
  rw [outcome, FailurePolicy.satisfied_standard entries chosen]

/-- With handlers for timeouts, a plan with a step that may fail lacks a parameter. -/
theorem checkMissingParameters_of_build_timeout :
    ∃ configuration, Configuration.ofSettings { failures := { pattern := "timeout" } } = .ok configuration ∧
      ({ failures := { pattern := "timeout" } } : Settings).catalog.entries = ({} : CatalogSettings).entries ∧
        let plan := Plan.ofClassification configuration (configuration.vocabulary.classify "fetch") .empty ["api"]
        let workflow := (Workflow.build configuration (.sequential "node") "Orders" plan.steps).1
        let passed := ((workflow.review configuration plan).verdict? .checkMissingParameters).map (·.passed)
        passed = some true ↔
          (∀ step ∈ plan.steps, step.isComplete = true) ∧ ¬∃ step ∈ plan.steps, step.mayFail = true := by
  obtain ⟨configuration, accepted⟩ : ∃ configuration,
      Configuration.ofSettings { failures := { pattern := "timeout" } } = .ok configuration :=
    Configuration.exists_ofSettings Catalog.exists_standard (by decide)
  refine ⟨configuration, accepted, rfl, ?_⟩
  intro plan workflow passed
  obtain ⟨_, _, _, outcome⟩ := checkMissingParameters_of_build accepted rfl (configuration.vocabulary.classify "fetch")
    .empty ["api"] "Orders" (.sequential "node")
  refine (outcome rfl).trans (and_congr_right fun _ => ?_)
  exact ⟨fun other prone => other ⟨rfl, prone⟩ rfl, fun sober handled => absurd handled.2 sober⟩

end WorkflowSynthesis
