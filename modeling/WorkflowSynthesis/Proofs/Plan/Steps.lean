import WorkflowSynthesis.Plan.Basic
import WorkflowSynthesis.Proofs.Configuration.Acceptance

/-!
The steps of a plan: one for every request, in the same order, and after them a handler for every one
that may fail.
-/

namespace WorkflowSynthesis.Plan

section Parameters

theorem length_deal (field : String) (values : List String) (steps : List Step) :
    (deal field values steps).length = steps.length := by
  induction steps generalizing values with
  | nil => cases values <;> rfl
  | cons step rest ih =>
    cases values with
    | nil => simp [deal, ih]
    | cons value values =>
      unfold deal
      split <;> simp [ih]

theorem length_textParameters (classification : Classification) (steps : List Step) :
    (textParameters classification steps).length = steps.length := by
  have addresses : (List.zipWith (· ++ ·) (deal "url" classification.entities.urls steps)
      (deal "toEmail" classification.entities.emails steps)).length = steps.length := by
    simp [length_deal]
  unfold textParameters
  dsimp only
  split
  · next first rest dealt => simpa [dealt] using addresses
  · exact addresses

end Parameters

variable (configuration : Configuration) (classification : Classification) (overrides : Overrides)
  (services : List String)

/-- The steps for the requests, with their parameters. -/
def calledSteps : List Step :=
  let steps := (requests configuration classification services).map (stepOf configuration.catalog)
  List.zipWith (fun step fromText => step.withParameters fromText ((overrides.get? step.key).getD []))
    steps (textParameters classification steps)

theorem steps_ofClassification :
    (ofClassification configuration classification overrides services).steps =
      calledSteps configuration classification overrides services ++
        handlers configuration.failures (calledSteps configuration classification overrides services) := rfl

theorem map_zipWith_left {α β γ δ : Type} {combine : α → β → γ} {view : γ → δ} {left : α → δ}
    (blind : ∀ a b, view (combine a b) = left a) (as : List α) (bs : List β) (long : as.length ≤ bs.length) :
    (List.zipWith combine as bs).map view = as.map left := by
  induction as generalizing bs with
  | nil => rfl
  | cons a as ih =>
    cases bs with
    | nil => simp at long
    | cons b bs =>
      have rest := ih bs (Nat.le_of_succ_le_succ long)
      simp [blind, rest]

/-- All that does not look at parameters is the same for a request and for its step. -/
theorem map_calledSteps {α : Type} (view : Step → α)
    (blind : ∀ step fromText fromCaller, view (Step.withParameters step fromText fromCaller) = view step) :
    (calledSteps configuration classification overrides services).map view =
      (requests configuration classification services).map fun request =>
        view (stepOf configuration.catalog request) := by
  unfold calledSteps
  dsimp only
  rw [map_zipWith_left (fun step _ => blind step _ _) _ _ (Nat.le_of_eq (length_textParameters _ _).symm),
    List.map_map]
  rfl

theorem role_stepOf_of_entry {catalog : Catalog} {request : Request} {entry : CatalogEntry}
    (found : catalog.get? request.key = some entry) : (stepOf catalog request).role = entry.role := by
  simp only [stepOf, found]
  rfl

/-- A step is of the type of some entry, may fail if that may, and requires what that requires. -/
theorem exists_entry_stepOf {catalog : Catalog} (checked : catalog.Checked) (request : Request) :
    ∃ entry ∈ catalog.entries.values, (stepOf catalog request).nodeType = entry.nodeType ∧
      (stepOf catalog request).mayFail = entry.mayFail ∧
        (stepOf catalog request).requiredFields = entry.requiredFields := by
  have listed : ∀ {key : String} {entry : CatalogEntry}, catalog.get? key = some entry →
      entry ∈ catalog.entries.values := fun found => List.mem_map_of_mem (Dictionary.get?_eq_some_iff.mp found)
  cases found : catalog.get? request.key with
  | some entry =>
    refine ⟨entry, listed found, ?_⟩
    simp [stepOf, found, Step.ofEntry]
  | none =>
    refine ⟨catalog.fallback, listed checked.fallback.1, ?_⟩
    simp [stepOf, found, Step.ofEntry]

/-- A plan begins with the step of its trigger. -/
theorem exists_first : ∃ fromText fromCaller others,
    (ofClassification configuration classification overrides services).steps =
      (stepOf configuration.catalog (triggerRequest classification.trigger)).withParameters fromText fromCaller ::
        others := by
  obtain ⟨further, begins⟩ : ∃ further, requests configuration classification services =
    triggerRequest classification.trigger :: further := ⟨_, rfl⟩
  rw [steps_ofClassification, calledSteps, begins, List.map_cons]
  have long := length_textParameters classification
    (stepOf configuration.catalog (triggerRequest classification.trigger) ::
      further.map (stepOf configuration.catalog))
  cases dealt : textParameters classification (stepOf configuration.catalog (triggerRequest classification.trigger) ::
      further.map (stepOf configuration.catalog)) with
  | nil =>
    rw [dealt] at long
    cases long
  | cons fromText rest => exact ⟨fromText, _, _, rfl⟩

/-- The first step of a plan is made from the entry of its trigger, if the catalog has one. -/
theorem exists_first_of_entry {entry : CatalogEntry}
    (found : configuration.catalog.get? classification.trigger.key = some entry) :
    ∃ step others, (ofClassification configuration classification overrides services).steps = step :: others ∧
      step.key = classification.trigger.key ∧ step.nodeType = entry.nodeType ∧ step.role = entry.role ∧
        step.fallback = false := by
  obtain ⟨fromText, fromCaller, others, begins⟩ := exists_first configuration classification overrides services
  refine ⟨_, others, begins, ?_⟩
  simp [stepOf, triggerRequest, found, Step.withParameters, Step.ofEntry]

/-- The first step of a plan is a trigger. -/
theorem exists_trigger (checked : configuration.catalog.Checked) :
    ∃ step ∈ (ofClassification configuration classification overrides services).steps, step.role = .trigger := by
  obtain ⟨entry, found, isTrigger⟩ := checked.triggers classification.trigger
  obtain ⟨step, others, begins, _, _, role, _⟩ :=
    exists_first_of_entry configuration classification overrides services found
  exact ⟨step, begins ▸ List.mem_cons_self, role.trans isTrigger⟩

variable {policy : FailurePolicy} {steps : List Step}

/-- A handler is planned for a step at its place, by the pattern in use, if failures are handled. -/
theorem mem_handlers {handler : Step} :
    handler ∈ handlers policy steps ↔ policy.enabled = true ∧
      ∃ pattern, policy.failurePattern? = some pattern ∧
        ∃ index step, steps[index]? = some step ∧ step.mayFail = true ∧ handler = handlerOf pattern index step := by
  unfold handlers
  split
  · next pattern enabled found =>
    simp only [List.mem_map, List.mem_filter, Prod.exists, List.mem_zipIdx_iff_getElem?, enabled, found, true_and,
      Option.some.injEq, exists_eq_left']
    constructor
    · rintro ⟨step, index, ⟨place, prone⟩, rfl⟩
      exact ⟨index, step, place, prone, rfl⟩
    · rintro ⟨index, step, place, prone, rfl⟩
      exact ⟨step, index, ⟨place, prone⟩, rfl⟩
  · next unhandled =>
    constructor
    · intro listed
      cases listed
    · rintro ⟨enabled, pattern, found, _⟩
      exact absurd found (unhandled pattern enabled)

theorem handlers_mayFail {handler : Step} (member : handler ∈ handlers policy steps) : handler.mayFail = false := by
  obtain ⟨_, pattern, _, index, step, _, _, rfl⟩ := mem_handlers.mp member
  rfl

/-- Whatever may fail in a plan has its handler there. -/
theorem handlerOf_mem (enabled : policy.enabled = true) {pattern : FailurePattern}
    (found : policy.failurePattern? = some pattern) {index : Nat} {step : Step}
    (place : (steps ++ handlers policy steps)[index]? = some step) (prone : step.mayFail = true) :
    handlerOf pattern index step ∈ steps ++ handlers policy steps := by
  have called : steps[index]? = some step := by
    rw [List.getElem?_append] at place
    split at place
    · exact place
    · have sober := handlers_mayFail (List.mem_of_getElem? place)
      simp [prone] at sober
  exact List.mem_append_right _ (mem_handlers.mpr ⟨enabled, pattern, found, index, step, called, prone, rfl⟩)

/-- Whatever may fail in a plan is guarded at its place. -/
theorem exists_guard (enabled : policy.enabled = true) (known : policy.failurePattern?.isSome) {index : Nat}
    {step : Step} (place : (steps ++ handlers policy steps)[index]? = some step) (prone : step.mayFail = true) :
    ∃ handler ∈ steps ++ handlers policy steps, handler.guards = some index := by
  obtain ⟨pattern, found⟩ := Option.isSome_iff_exists.mp known
  exact ⟨handlerOf pattern index step, handlerOf_mem enabled found place prone, rfl⟩

end WorkflowSynthesis.Plan
