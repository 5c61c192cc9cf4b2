import WorkflowSynthesis.Proofs.Plan.Standard
import WorkflowSynthesis.Proofs.Review.Recovery

/-!
Which steps can be recovered from what is written of them: under the standard settings all that are planned, for any
services of the caller, as well as the ends of branches and notes.
-/

namespace WorkflowSynthesis

namespace Catalog

theorem entryOf?_of_get? {catalog : Catalog} {key : String} {entry : CatalogEntry} (found : catalog.get? key = some entry) :
    catalog.entryOf? key entry.nodeType = some entry := by
  rw [entryOf?, found, Option.filter_some, if_pos (decide_eq_true rfl), Option.some_or]

theorem entryOf?_of_none {catalog : Catalog} {key : String} (unknown : catalog.get? key = none) (nodeType : String) :
    catalog.entryOf? key nodeType = catalog.findByType? nodeType := by
  rw [entryOf?, unknown, Option.filter_none, Option.none_or]

/-- An entry whose steps are recovered by their type. -/
structure Recovers (catalog : Catalog) (entry : CatalogEntry) : Prop where
  role : entry.role = Role.ofNodeType entry.nodeType
  typed : Text.isBlankText entry.nodeType = false
  required : ∃ twin, catalog.findByType? entry.nodeType = some twin ∧
    ∀ field, field ∈ twin.requiredFields ↔ field ∈ entry.requiredFields

theorem recovers_standard {key : String} {entry : CatalogEntry} (found : standard.get? key = some entry) :
    standard.Recovers entry := by
  have sound : ∀ entry ∈ standard.entries.entries, entry.2.role = Role.ofNodeType entry.2.nodeType ∧
      Text.isBlankText entry.2.nodeType = false ∧ (standard.findByType? entry.2.nodeType).any (fun twin =>
        twin.requiredFields ⊆ entry.2.requiredFields ∧ entry.2.requiredFields ⊆ twin.requiredFields) = true := by
    decide
  obtain ⟨role, typed, required⟩ := sound _ (Dictionary.get?_eq_some_iff.mp found)
  obtain ⟨twin, isTwin, within⟩ := (Option.any_eq_true _ _).mp required
  obtain ⟨up, down⟩ := of_decide_eq_true within
  exact ⟨role, typed, twin, isTwin, fun field => ⟨fun held => up held, fun held => down held⟩⟩

/-- Keys of steps that are not called for, none of which has an entry. -/
structure Unlisted (catalog : Catalog) : Prop where
  unnamed : catalog.get? "" = none
  branchEnd : catalog.get? "branch_end" = none
  note : catalog.get? "annotation" = none
  handler : catalog.get? "error_handler" = none

theorem unlisted_standard : standard.Unlisted := by
  have unlisted : ∀ key ∈ ["", "branch_end", "annotation", "error_handler"], standard.get? key = none := by decide
  simp only [List.forall_mem_cons, List.not_mem_nil, false_imp_iff, implies_true, and_true] at unlisted
  obtain ⟨unnamed, branchEnd, note, handler⟩ := unlisted
  exact ⟨unnamed, branchEnd, note, handler⟩

end Catalog

namespace Step

variable {catalog : Catalog}

/-- The step of an entry is recovered if its key is that of the entry or of none. -/
theorem recoverable_ofEntry {key : String} {entry : CatalogEntry} (recovers : catalog.Recovers entry)
    (unnamed : catalog.get? "" = none) (keyed : catalog.get? key = some entry ∨ catalog.get? key = none) :
    (ofEntry key entry).Recoverable catalog := by
  obtain ⟨twin, isTwin, same⟩ := recovers.required
  refine ⟨.inl recovers.role, recovers.typed, fun field => ?_⟩
  have read : (ofEntry key entry).reloaded.Requires catalog field ↔ field ∈ entry.requiredFields := by
    simp [Requires, reloaded, ofEntry, Catalog.entryOf?_of_none unnamed, isTwin, same]
  have kept : (ofEntry key entry).Requires catalog field ↔ field ∈ entry.requiredFields := by
    rcases keyed with own | unknown
    · simp [Requires, ofEntry, Catalog.entryOf?_of_get? own]
    · simp [Requires, ofEntry, Catalog.entryOf?_of_none unknown, isTwin, same]
  rw [read, kept]

/-- A step that is not made from an entry and requires nothing by itself is recovered if its role is. -/
theorem recoverable_of_unlisted {step : Step} (unnamed : catalog.get? "" = none) (unlisted : catalog.get? step.key = none)
    (free : step.requiredFields = []) (typed : Text.isBlankText step.nodeType = false)
    (role : step.role = Role.ofNodeType step.nodeType ∨
      step.role = .errorHandler ∧ Role.ofNodeType step.nodeType = .action ∧ catalog.mayFailType step.nodeType = false) :
    step.Recoverable catalog := by
  refine ⟨role, typed, fun field => ?_⟩
  simp [Requires, reloaded, free, Catalog.entryOf?_of_none unnamed, Catalog.entryOf?_of_none unlisted]

theorem recoverable_branchEnd (source : String) (outputs output : Nat) :
    (branchEnd source outputs output).Recoverable .standard := by
  obtain ⟨typed, action, _⟩ := passThrough_standard
  exact recoverable_of_unlisted Catalog.unlisted_standard.unnamed Catalog.unlisted_standard.branchEnd rfl typed
    (.inl action.symm)

/-- Notes are recovered as notes. -/
theorem recoverable_note (settings : NoteSettings) (name : String) (note : Note) :
    (Attachment.step settings name note).Recoverable .standard := by
  have typed : Text.isBlankText Attachment.stickyNoteType = false := by decide
  have role : Role.ofNodeType Attachment.stickyNoteType = .note := by decide
  exact recoverable_of_unlisted Catalog.unlisted_standard.unnamed Catalog.unlisted_standard.note rfl typed (.inl role.symm)

end Step

namespace Plan

theorem recoverable_stepOf {request : Request} (acts : Catalog.standard.get? request.key = none → request.role = .action) :
    (stepOf .standard request).Recoverable .standard := by
  cases found : Catalog.standard.get? request.key with
  | some entry =>
    have recoverable := Step.recoverable_ofEntry (Catalog.recovers_standard found) Catalog.unlisted_standard.unnamed
      (.inl found)
    simp only [stepOf, found]
    exact ⟨recoverable.role, recoverable.typed, recoverable.required⟩
  | none =>
    have recoverable := Step.recoverable_ofEntry (Catalog.recovers_standard Catalog.get?_fallback_standard)
      Catalog.unlisted_standard.unnamed (.inr found)
    have action : Catalog.standard.fallback.role = .action := by
      obtain ⟨entry, held, action⟩ := Catalog.role_standard Catalog.role_fallback_standard
      rw [Option.some.inj (Catalog.get?_fallback_standard.symm.trans held), action]
    simp only [stepOf, found]
    refine ⟨?_, recoverable.typed, recoverable.required⟩
    rw [acts found, ← action]
    exact recoverable.role

section Standard

variable {configuration : Configuration} {classification : Classification} {overrides : Overrides}
  {services : List String}
variable (follows : configuration.Follows {}) (reads : configuration.vocabulary.Reads classification)

theorem role_actions {request : Request} (member : request ∈ actions configuration classification services) :
    request.role = .action := by
  have named : ∀ request ∈ namedActions configuration classification services, request.role = .action := by
    intro request listed
    rcases List.mem_append.mp (Request.mem_fresh listed).1 with mentioned | called
    · obtain ⟨mention, _, made⟩ := List.mem_filterMap.mp mentioned
      unfold mentionRequest? at made
      split at made
      · cases made
        rfl
      · split at made <;> cases made
        rfl
    · obtain ⟨service, _, made⟩ := List.mem_filterMap.mp called
      unfold serviceRequest? at made
      dsimp only at made
      split at made <;> cases made
      rfl
  unfold actions at member
  split at member
  · rw [List.mem_singleton.mp member]
    rfl
  · exact named request member

include follows reads

/-- Only actions are planned for keys that the catalog does not have. -/
theorem role_of_unlisted {request : Request} (member : request ∈ requests configuration classification services)
    (unlisted : Catalog.standard.get? request.key = none) : request.role = .action := by
  have listed : ∀ role ∈ [Role.trigger, .condition, .dataOp], ∀ key ∈ standardKeys role,
      Catalog.standard.get? key ≠ none := by decide
  rw [requests_eq, List.mem_cons, List.mem_append, List.mem_append] at member
  rcases member with rfl | (action | condition) | dataOp
  · have asked := (asked_triggerRequest classification.trigger).known _ (List.mem_singleton_self _)
    exact absurd unlisted (listed .trigger (by decide) _ asked.2)
  · exact role_actions action
  · have asked := (asked_conditionRequests follows reads services).known request condition
    exact absurd unlisted (listed .condition (by decide) _ asked.2)
  · have asked := (asked_dataOpRequests follows reads services).known request dataOp
    exact absurd unlisted (listed .dataOp (by decide) _ asked.2)

/-- Everything that is planned is recovered, whatever services the caller names. -/
theorem recoverable_steps {step : Step}
    (member : step ∈ (ofClassification configuration classification overrides services).steps) :
    step.Recoverable .standard := by
  rw [steps_ofClassification, List.mem_append] at member
  rcases member with called | handler
  · obtain ⟨request, listed, fromText, _, rfl⟩ := exists_request called
    rw [follows.catalog_standard]
    have recoverable := recoverable_stepOf (role_of_unlisted follows reads listed)
    exact ⟨recoverable.role, recoverable.typed, recoverable.required⟩
  · obtain ⟨_, pattern, found, index, guarded, _, _, rfl⟩ := mem_handlers.mp handler
    have nodeType : (handlerOf pattern index guarded).nodeType = Step.passThroughType :=
      (failurePattern_standard follows found).1
    obtain ⟨typed, action, ends⟩ := Step.passThrough_standard
    refine Step.recoverable_of_unlisted Catalog.unlisted_standard.unnamed Catalog.unlisted_standard.handler rfl ?_
      (.inr ⟨rfl, ?_, ?_⟩) <;> rw [nodeType]
    · exact typed
    · exact action
    · exact ends

/-- Nothing that is called for handles failures. -/
theorem role_called_ne_errorHandler {step : Step}
    (member : step ∈ calledSteps configuration classification overrides services) : step.role ≠ .errorHandler := by
  have consistent := Configuration.consistent_of_follows follows
  obtain ⟨request, listed, fromText, _, rfl⟩ := exists_request member
  rw [follows.catalog_standard]
  cases found : Catalog.standard.get? request.key with
  | some entry =>
    simp only [stepOf, found]
    exact (consistent.entries request.key entry (follows.catalog_standard ▸ found)).1
  | none =>
    have action := role_of_unlisted follows reads listed found
    simp only [stepOf, found]
    exact fun handles => absurd (action.symm.trans handles) (by decide)

/-- Only actions may fail. -/
theorem role_of_mayFail {step : Step} (member : step ∈ calledSteps configuration classification overrides services)
    (prone : step.mayFail = true) : step.role = .action := by
  have entries : ∀ entry ∈ Catalog.standard.entries.entries, entry.2.mayFail = true → entry.2.role = .action := by
    decide
  obtain ⟨request, listed, fromText, _, rfl⟩ := exists_request member
  rw [follows.catalog_standard] at prone ⊢
  cases found : Catalog.standard.get? request.key with
  | some entry =>
    simp only [stepOf, found] at prone ⊢
    exact entries _ (Dictionary.get?_eq_some_iff.mp found) prone
  | none =>
    simp only [stepOf, found] at prone ⊢
    exact role_of_unlisted follows reads listed found

end Standard

end Plan

end WorkflowSynthesis
