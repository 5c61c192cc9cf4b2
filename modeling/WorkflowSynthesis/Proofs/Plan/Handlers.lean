import WorkflowSynthesis.Proofs.Plan.Standard

/-!
The handlers of a plan. They stand behind the steps that they name, one for each step that may fail, and no step sets
an error mode itself.
-/

namespace WorkflowSynthesis.Plan

/-- Whether only handlers name steps, and only earlier ones, and no step has an error mode. -/
structure Guarding (steps : List Step) : Prop where
  silent : ∀ step ∈ steps, step.onError = none
  behind : ∀ {place index : Nat} {handler : Step}, steps[place]? = some handler → handler.guards = some index →
    handler.role = .errorHandler ∧ index < place

section Called

variable {configuration : Configuration} {classification : Classification} {overrides : Overrides}
  {services : List String} {step : Step}

theorem unguarded_stepOf (catalog : Catalog) (request : Request) :
    (stepOf catalog request).guards = none ∧ (stepOf catalog request).onError = none := by
  unfold stepOf
  split <;> exact ⟨rfl, rfl⟩

/-- What is called for is no handler of anything, and has no error mode. -/
theorem unguarded_called (member : step ∈ calledSteps configuration classification overrides services) :
    step.guards = none ∧ step.onError = none := by
  obtain ⟨request, _, fromText, _, rfl⟩ := exists_request member
  exact unguarded_stepOf configuration.catalog request

end Called

section Handlers

variable {policy : FailurePolicy} {steps : List Step}

theorem nodup_guards (policy : FailurePolicy) (steps : List Step) : ((handlers policy steps).map (·.guards)).Nodup := by
  unfold handlers
  split
  · have numbers : (steps.zipIdx.map Prod.snd).Nodup := by
      rw [show steps.zipIdx.map Prod.snd = List.range' 0 steps.length from List.zipIdx_map_snd 0 steps]
      exact List.nodup_range'
    have guards : ((steps.zipIdx.filter (·.1.mayFail)).map Prod.snd).Nodup := (List.filter_sublist.map _).nodup numbers
    have named := guards.map (Option.some_injective Nat)
    rw [List.map_map] at named ⊢
    exact named
  · exact List.nodup_nil

variable (unguarded : ∀ step ∈ steps, step.guards = none ∧ step.onError = none)
include unguarded

/-- What names a step stands among the handlers. -/
theorem exists_handler_place {place index : Nat} {handler : Step}
    (planned : (steps ++ handlers policy steps)[place]? = some handler) (guards : handler.guards = some index) :
    steps.length ≤ place ∧ (handlers policy steps)[place - steps.length]? = some handler := by
  rw [List.getElem?_append] at planned
  split at planned
  · have unnamed := (unguarded handler (List.mem_of_getElem? planned)).1
    cases guards.symm.trans unnamed
  · next behind => exact ⟨Nat.le_of_not_lt behind, planned⟩

theorem guarding_append_handlers : Guarding (steps ++ handlers policy steps) where
  silent := by
    refine List.forall_mem_append.mpr ⟨fun step member => (unguarded step member).2, fun handler member => ?_⟩
    obtain ⟨_, _, _, _, _, _, _, rfl⟩ := mem_handlers.mp member
    rfl
  behind := by
    intro place index handler planned guards
    obtain ⟨behind, listed⟩ := exists_handler_place unguarded planned guards
    obtain ⟨_, pattern, _, index, step, origin, _, rfl⟩ := mem_handlers.mp (List.mem_of_getElem? listed)
    cases guards
    have inside := (List.getElem?_eq_some_iff.mp origin).1
    exact ⟨rfl, Nat.lt_of_lt_of_le inside behind⟩

/-- No step is named by two handlers. -/
theorem eq_of_guards {place other index : Nat} {handler otherHandler : Step}
    (planned : (steps ++ handlers policy steps)[place]? = some handler) (guards : handler.guards = some index)
    (otherPlanned : (steps ++ handlers policy steps)[other]? = some otherHandler)
    (otherGuards : otherHandler.guards = some index) : place = other := by
  obtain ⟨behind, listed⟩ := exists_handler_place unguarded planned guards
  obtain ⟨otherBehind, otherListed⟩ := exists_handler_place unguarded otherPlanned otherGuards
  have inside : place - steps.length < ((handlers policy steps).map (·.guards)).length := by
    rw [List.length_map]
    exact (List.getElem?_eq_some_iff.mp listed).1
  have same : ((handlers policy steps).map (·.guards))[place - steps.length]? =
      ((handlers policy steps).map (·.guards))[other - steps.length]? := by
    rw [List.getElem?_map, List.getElem?_map, listed, otherListed, Option.map_some, Option.map_some, guards, otherGuards]
  have equal := (List.getElem?_inj inside (nodup_guards policy steps)).mp same
  omega

/-- A step that may fail is named by exactly one handler. -/
theorem exists_only_guard (enabled : policy.enabled = true) (known : policy.failurePattern?.isSome) {index : Nat}
    {step : Step} (planned : (steps ++ handlers policy steps)[index]? = some step) (prone : step.mayFail = true) :
    ∃ (place : Nat) (handler : Step), (steps ++ handlers policy steps)[place]? = some handler ∧ handler.guards = some index ∧
      ∀ (other : Nat) (otherHandler : Step), (steps ++ handlers policy steps)[other]? = some otherHandler →
        (otherHandler.guards = some index ↔ other = place) := by
  obtain ⟨handler, member, guards⟩ := exists_guard enabled known planned prone
  obtain ⟨place, found⟩ := List.mem_iff_getElem?.mp member
  refine ⟨place, handler, found, guards, fun other otherHandler otherFound => ⟨fun otherGuards => ?_, ?_⟩⟩
  · exact eq_of_guards unguarded otherFound otherGuards found guards
  · rintro rfl
    rw [Option.some.inj (otherFound.symm.trans found), guards]

end Handlers

end WorkflowSynthesis.Plan
