import WorkflowSynthesis.Proofs.Plan.Provenance

/-!
What a plan reports. A key without an entry is reported where it is planned, an action that nobody named is reported
once, and of the parameters of the caller either a step takes them or their key is reported.
-/

namespace WorkflowSynthesis

theorem Request.mem_keys_fresh {seen : List String} {requests : List Request} {key : String} :
    key ∈ keys (fresh seen requests) ↔ key ∈ keys requests ∧ key ∉ seen := by
  induction requests generalizing seen with
  | nil => simp [fresh, keys]
  | cons request rest ih =>
    have listed : key ∈ keys (request :: rest) ↔ key = request.key ∨ key ∈ keys rest := List.mem_cons
    unfold fresh
    split
    · next old =>
      rw [ih, listed]
      have held : request.key ∈ seen := by simpa using old
      grind
    · next new =>
      have first : key ∈ keys (request :: fresh (request.key :: seen) rest) ↔
          key = request.key ∨ key ∈ keys (fresh (request.key :: seen) rest) := List.mem_cons
      rw [first, ih, listed, List.mem_cons]
      have absent : request.key ∉ seen := by simpa using new
      grind

theorem Dictionary.ascending_keys {α : Type} (dictionary : Dictionary α) : dictionary.keys.Pairwise (· < ·) :=
  List.pairwise_map.mpr dictionary.ascending

namespace Plan

/-- The diagnostics of one kind. -/
def notes (plan : Plan) (kind : DiagnosticKind) : List Diagnostic := plan.diagnostics.filter (·.kind = kind)

def unresolvedNote (catalog : Catalog) (key : String) : Diagnostic :=
  ⟨.unresolvedKey, "no catalog entry for '" ++ key ++ "'; using the generic '" ++ catalog.fallbackKey ++ "' node"⟩

def unusedNote (key : String) : Diagnostic :=
  ⟨.unusedOverride, "parameters supplied for '" ++ key ++ "' but no such node was resolved"⟩

section Kinds

theorem kind_unclassifiedNotes {classification : Classification} :
    ∀ note ∈ unclassifiedNotes classification, note.kind = .unclassifiedInput := by
  unfold unclassifiedNotes
  split <;> simp

theorem kind_defaultActionNotes {configuration : Configuration} {classification : Classification} {services : List String} :
    ∀ note ∈ defaultActionNotes configuration classification services, note.kind = .defaultAction := by
  unfold defaultActionNotes
  split <;> simp

theorem kind_unresolvedNotes {catalog : Catalog} {requests : List Request} :
    ∀ note ∈ unresolvedNotes catalog requests, note.kind = .unresolvedKey :=
  List.forall_mem_map.mpr fun _ _ => rfl

theorem kind_unusedNotes {overrides : Overrides} {requests : List Request} :
    ∀ note ∈ unusedNotes overrides requests, note.kind = .unusedOverride :=
  List.forall_mem_map.mpr fun _ _ => rfl

theorem filter_kind {notes : List Diagnostic} {own : DiagnosticKind} (all : ∀ note ∈ notes, note.kind = own)
    (kind : DiagnosticKind) : notes.filter (·.kind = kind) = if own = kind then notes else [] := by
  split
  · next same => exact List.filter_eq_self.mpr fun note member => by simp [all note member, same]
  · next different => exact List.filter_eq_nil_iff.mpr fun note member => by simp [all note member, different]

end Kinds

section Notes

variable (configuration : Configuration) (classification : Classification) (overrides : Overrides)
  (services : List String)

theorem notes_ofClassification (kind : DiagnosticKind) :
    (ofClassification configuration classification overrides services).notes kind = match kind with
      | .unclassifiedInput => unclassifiedNotes classification
      | .defaultAction => defaultActionNotes configuration classification services
      | .unresolvedKey => unresolvedNotes configuration.catalog (requests configuration classification services)
      | .unusedOverride => unusedNotes overrides (requests configuration classification services) := by
  unfold notes ofClassification
  simp only [List.filter_append, filter_kind kind_unclassifiedNotes, filter_kind kind_defaultActionNotes,
    filter_kind kind_unresolvedNotes, filter_kind kind_unusedNotes]
  cases kind <;> simp

theorem keys_called : (calledSteps configuration classification overrides services).map (·.key) =
    Request.keys (requests configuration classification services) := by
  rw [map_calledSteps configuration classification overrides services (·.key) fun _ _ _ => rfl]
  exact List.map_congr_left fun request _ => key_stepOf configuration.catalog request

theorem mem_keys_requests {key : String} : key ∈ Request.keys (requests configuration classification services) ↔
    ∃ step ∈ calledSteps configuration classification overrides services, step.key = key := by
  rw [← keys_called configuration classification overrides services, List.mem_map]

theorem fallback_handlers {policy : FailurePolicy} {steps : List Step} {handler : Step}
    (member : handler ∈ handlers policy steps) : handler.fallback = false ∧ handler.guards ≠ none := by
  obtain ⟨_, pattern, _, index, step, _, _, rfl⟩ := mem_handlers.mp member
  exact ⟨rfl, Option.some_ne_none index⟩

/-- The steps that the fallback entry stands in for are those of keys without an entry. -/
theorem fallback_called {step : Step} (member : step ∈ calledSteps configuration classification overrides services) :
    step.fallback = (configuration.catalog.get? step.key).isNone := by
  obtain ⟨request, _, fromText, _, rfl⟩ := exists_request member
  have key := key_stepOf configuration.catalog request
  have fallback := fallback_stepOf configuration.catalog request
  rw [← key] at fallback
  exact fallback

/-- The steps that the fallback entry stands in for, in order: those of keys without an entry. -/
theorem filter_fallback :
    (ofClassification configuration classification overrides services).steps.filter (·.fallback) =
      (calledSteps configuration classification overrides services).filter fun step =>
        (configuration.catalog.get? step.key).isNone := by
  have sober : ∀ handler ∈ handlers configuration.failures (calledSteps configuration classification overrides services),
      ¬handler.fallback = true := fun handler member => by simp [(fallback_handlers member).1]
  rw [steps_ofClassification, List.filter_append, List.filter_eq_nil_iff.mpr sober, List.append_nil]
  exact List.filter_congr fun step member => fallback_called configuration classification overrides services member

theorem unresolvedNotes_eq :
    unresolvedNotes configuration.catalog (requests configuration classification services) =
      ((ofClassification configuration classification overrides services).steps.filter (·.fallback)).map fun step =>
        unresolvedNote configuration.catalog step.key := by
  let unlisted := fun key => (configuration.catalog.get? key).isNone
  calc unresolvedNotes configuration.catalog (requests configuration classification services)
      = ((Request.keys (requests configuration classification services)).filter unlisted).map
          (unresolvedNote configuration.catalog) := by
        rw [Request.keys, List.filter_map, List.map_map]
        rfl
    _ = ((calledSteps configuration classification overrides services).filter (unlisted ·.key)).map
          (unresolvedNote configuration.catalog ·.key) := by
        rw [← keys_called configuration classification overrides services, List.filter_map, List.map_map]
        rfl
    _ = _ := by rw [filter_fallback]

/-- Whether a mention or a service asks for a step with a key, other than that of the trigger. -/
def Contributes (key : String) : Prop :=
  key ≠ classification.trigger.key ∧
    ((∃ mention ∈ classification.actions, ∃ request, mentionRequest? configuration.vocabulary mention = some request ∧
        request.key = key) ∨
      ∃ service ∈ services, ∃ request, serviceRequest? configuration.vocabulary service = some request ∧ request.key = key)

theorem mem_keys_namedActions {key : String} :
    key ∈ Request.keys (namedActions configuration classification services) ↔
      Contributes configuration classification services key := by
  rw [namedActions, Request.mem_keys_fresh, Contributes, and_comm, List.mem_singleton]
  refine and_congr_right fun _ => ?_
  simp only [Request.keys, List.map_append, List.mem_append, List.mem_map, List.mem_filterMap]
  grind

/-- After the trigger come the steps that mentions and services contribute, one for each key. -/
theorem exists_contributed :
    ∃ trigger contributed others, calledSteps configuration classification overrides services =
        trigger :: (contributed ++ others) ∧
      contributed.map (·.key) = Request.keys (namedActions configuration classification services) := by
  obtain ⟨others, split⟩ : ∃ others, requests configuration classification services =
      triggerRequest classification.trigger :: (namedActions configuration classification services ++ others) := by
    rw [requests_eq, actions]
    split
    · next unnamed => exact ⟨_, by rw [unnamed]; rfl⟩
    · exact ⟨_, by rw [List.append_assoc]⟩
  have keys := keys_called configuration classification overrides services
  rw [split, Request.keys, List.map_cons, List.map_append] at keys
  obtain ⟨trigger, rest, called, _, further⟩ := List.map_eq_cons_iff.mp keys
  obtain ⟨contributed, later, rfl, same, _⟩ := List.map_eq_append_iff.mp further
  exact ⟨trigger, contributed, later, called, same⟩

end Notes

/-- What the diagnostics of a plan say of its steps. Handlers are the steps that guard others. -/
structure Accounts (configuration : Configuration) (classification : Classification) (overrides : Overrides)
    (services : List String) (plan : Plan) : Prop where
  /-- That no word was known is said once and first, if it is so. -/
  unclassified : if classification.isUnclassified then
      (plan.notes .unclassifiedInput).length = 1 ∧ (plan.diagnostics.head?.map (·.kind)) = some .unclassifiedInput
    else plan.notes .unclassifiedInput = []
  /-- Mentions and services contribute the steps after the trigger, one for each key. -/
  contributed : ∃ trigger contributed others, plan.steps = trigger :: (contributed ++ others) ∧
    (contributed.map (·.key)).Nodup ∧
      (∀ key, key ∈ contributed.map (·.key) ↔ Contributes configuration classification services key) ∧
        (plan.notes .defaultAction).length = if contributed = [] then 1 else 0
  /-- The fallback entry stands in exactly for the keys that have none. -/
  fallback : ∀ step ∈ plan.steps, step.fallback = true ↔
    step.guards = none ∧ configuration.catalog.get? step.key = none
  unresolved : plan.unresolvedKeys = (plan.steps.filter (·.fallback)).map (·.key) ∧
    plan.notes .unresolvedKey = plan.unresolvedKeys.map (unresolvedNote configuration.catalog)
  /-- The keys of the caller that no step has are reported last, each once and in order. -/
  unused : ∃ (earlier : List Diagnostic) (keys : List String), plan.diagnostics = earlier ++ keys.map unusedNote ∧
    (∀ note ∈ earlier, note.kind ≠ .unusedOverride) ∧ keys.Pairwise (· < ·) ∧
      ∀ key, key ∈ keys ↔ key ∈ overrides.keys ∧ ∀ step ∈ plan.steps, step.guards = none → step.key ≠ key
  /-- What the caller says of a key is laid over the parameters of a step, or it is reported. -/
  applied : ∀ key layer, overrides.get? key = some layer →
    (∃ step ∈ plan.steps, step.guards = none ∧ step.key = key ∧ ∃ below, step.parameters = Parameters.merge below layer) ∨
      unusedNote key ∈ plan.diagnostics

section Accounts

variable (configuration : Configuration) (classification : Classification) (overrides : Overrides)
  (services : List String)

theorem diagnostics_ofClassification :
    (ofClassification configuration classification overrides services).diagnostics =
      unclassifiedNotes classification ++ defaultActionNotes configuration classification services ++
        unresolvedNotes configuration.catalog (requests configuration classification services) ++
          unusedNotes overrides (requests configuration classification services) := rfl

/-- What is called for is what guards no other step. -/
theorem mem_called_iff {step : Step} : step ∈ calledSteps configuration classification overrides services ↔
    step ∈ (ofClassification configuration classification overrides services).steps ∧ step.guards = none := by
  rw [← filter_unguarded, List.mem_filter, Option.isNone_iff_eq_none]

theorem mem_unused_iff {key : String} :
    key ∈ overrides.keys.filter (fun key => !(Request.keys (requests configuration classification services)).contains key) ↔
      key ∈ overrides.keys ∧ ∀ step ∈ (ofClassification configuration classification overrides services).steps,
        step.guards = none → step.key ≠ key := by
  rw [List.mem_filter, Bool.not_eq_true', List.contains_eq_mem, decide_eq_false_iff_not,
    mem_keys_requests configuration classification overrides services]
  simp only [mem_called_iff, not_exists, not_and, and_imp]

/-- No handler is made from the fallback entry, and of the other steps those of keys without an entry. -/
theorem fallback_iff {step : Step}
    (planned : step ∈ (ofClassification configuration classification overrides services).steps) :
    step.fallback = true ↔ step.guards = none ∧ configuration.catalog.get? step.key = none := by
  by_cases unguarded : step.guards = none
  · have called := (mem_called_iff configuration classification overrides services).mpr ⟨planned, unguarded⟩
    rw [fallback_called configuration classification overrides services called, Option.isNone_iff_eq_none]
    simp [unguarded]
  · have handler : step ∈ handlers configuration.failures (calledSteps configuration classification overrides services) := by
      rw [steps_ofClassification, List.mem_append, mem_called_iff] at planned
      exact planned.resolve_left fun called => unguarded called.2
    simp [(fallback_handlers handler).1, unguarded]

/-- What the caller says of a key is laid over the parameters of a step with it; if there is none, it is reported. -/
theorem exists_step_or_note {key : String} {layer : Members} (given : overrides.get? key = some layer) :
    let plan := ofClassification configuration classification overrides services
    (∃ step ∈ plan.steps, step.guards = none ∧ step.key = key ∧ ∃ below, step.parameters = Parameters.merge below layer) ∨
      unusedNote key ∈ plan.diagnostics := by
  intro plan
  by_cases taken : ∃ step ∈ plan.steps, step.guards = none ∧ step.key = key
  · obtain ⟨step, planned, unguarded, rfl⟩ := taken
    have called := (mem_called_iff configuration classification overrides services).mpr ⟨planned, unguarded⟩
    obtain ⟨place, found⟩ := List.mem_iff_getElem?.mp called
    obtain ⟨_, ⟨fromText, _, layers⟩, _, _⟩ := supplied_called found
    rw [given, Option.getD_some] at layers
    exact .inl ⟨step, planned, unguarded, rfl, _, layers⟩
  · have listed : key ∈ overrides.keys := Dictionary.mem_keys.mpr ⟨layer, Dictionary.get?_eq_some_iff.mp given⟩
    rw [show plan.diagnostics = _ from diagnostics_ofClassification configuration classification overrides services]
    refine .inr (List.mem_append_right _ (List.mem_map_of_mem ?_))
    refine (mem_unused_iff configuration classification overrides services).mpr ⟨listed, ?_⟩
    exact fun step planned unguarded same => taken ⟨step, planned, unguarded, same⟩

/-- The diagnostics of a plan tell what its steps do not show: no word was known, nobody named an action, a key has no
entry, or no step takes what the caller says. -/
theorem accounts_ofClassification :
    Accounts configuration classification overrides services
      (ofClassification configuration classification overrides services) where
  unclassified := by
    rw [notes_ofClassification, diagnostics_ofClassification]
    dsimp only
    unfold unclassifiedNotes
    split
    · exact ⟨rfl, rfl⟩
    · rfl
  contributed := by
    obtain ⟨trigger, contributed, others, called, keys⟩ :=
      exists_contributed configuration classification overrides services
    refine ⟨trigger, contributed, others ++ handlers configuration.failures
      (calledSteps configuration classification overrides services), ?_, ?_, fun key => ?_, ?_⟩
    · rw [steps_ofClassification, called, List.cons_append, List.append_assoc]
    · rw [keys]
      exact Request.nodup_keys_fresh _ _
    · rw [keys, mem_keys_namedActions]
    · have unnamed : contributed = [] ↔ namedActions configuration classification services = [] := by
        rw [← List.map_eq_nil_iff, keys, Request.keys, List.map_eq_nil_iff]
      simp only [notes_ofClassification, defaultActionNotes, List.isEmpty_iff, unnamed]
      split <;> rfl
  fallback step planned := fallback_iff configuration classification overrides services planned
  unresolved := ⟨rfl, by
    rw [notes_ofClassification, unresolvedKeys, List.map_map]
    exact unresolvedNotes_eq configuration classification overrides services⟩
  unused := by
    refine ⟨_, _, rfl, ?_, overrides.ascending_keys.filter _, fun key =>
      mem_unused_iff configuration classification overrides services⟩
    simp only [List.forall_mem_append]
    exact ⟨⟨fun note listed => by simp [kind_unclassifiedNotes note listed],
      fun note listed => by simp [kind_defaultActionNotes note listed]⟩,
      fun note listed => by simp [kind_unresolvedNotes note listed]⟩
  applied key layer given := exists_step_or_note configuration classification overrides services given

end Accounts

end Plan

end WorkflowSynthesis
