import WorkflowSynthesis.Proofs.Classification.Reading
import WorkflowSynthesis.Proofs.Configuration.Standard
import WorkflowSynthesis.Proofs.Plan.Steps

/-!
Where the requests of a plan come from. They are those of a trigger, of mentions, of services, of
conditions and of data operations, in this order and each key once, and unless a service says otherwise
each is met by an entry of the role that it is made for.
-/

namespace WorkflowSynthesis

namespace Request

theorem mem_fresh {seen : List String} {requests : List Request} {request : Request}
    (member : request ∈ fresh seen requests) : request ∈ requests ∧ request.key ∉ seen := by
  induction requests generalizing seen with
  | nil => simp [fresh] at member
  | cons first rest ih =>
    unfold fresh at member
    split at member
    · obtain ⟨later, unseen⟩ := ih member
      exact ⟨List.mem_cons_of_mem _ later, unseen⟩
    · next unseen =>
      rcases List.mem_cons.mp member with rfl | later
      · exact ⟨List.mem_cons_self, by simpa using unseen⟩
      · obtain ⟨listed, others⟩ := ih later
        exact ⟨List.mem_cons_of_mem _ listed, fun old => others (List.mem_cons_of_mem _ old)⟩

/-- Which keys were seen counts, and not in which order. -/
theorem fresh_congr {seen known : List String} (same : ∀ key, key ∈ seen ↔ key ∈ known) (requests : List Request) :
    fresh seen requests = fresh known requests := by
  induction requests generalizing seen known with
  | nil => rfl
  | cons request rest ih =>
    have extended : ∀ key, key ∈ request.key :: seen ↔ key ∈ request.key :: known := by simp [same]
    simp only [fresh, List.contains_eq_mem, same, ih same, ih extended]

theorem fresh_append (seen : List String) (first second : List Request) :
    fresh seen (first ++ second) = fresh seen first ++ fresh (seen ++ keys (fresh seen first)) second := by
  induction first generalizing seen with
  | nil => simp [fresh, keys]
  | cons request rest ih =>
    rw [List.cons_append]
    by_cases old : seen.contains request.key = true
    · simp only [fresh, old, ↓reduceIte, ih]
    · simp only [fresh, old, ↓reduceIte, ih, List.cons_append, Bool.false_eq_true]
      refine congrArg (fun later => request :: (fresh (request.key :: seen) rest ++ later)) (fresh_congr ?_ second)
      simp [keys, or_left_comm]

theorem length_fresh_le (seen : List String) (requests : List Request) :
    (fresh seen requests).length ≤ requests.length := by
  induction requests generalizing seen with
  | nil => exact Nat.le_refl _
  | cons request rest ih =>
    unfold fresh
    split
    · exact Nat.le_succ_of_le (ih seen)
    · exact Nat.succ_le_succ (ih _)

theorem nodup_keys_fresh (seen : List String) (requests : List Request) : (keys (fresh seen requests)).Nodup := by
  induction requests generalizing seen with
  | nil => simp [fresh, keys]
  | cons request rest ih =>
    unfold fresh
    split
    · exact ih seen
    · refine List.nodup_cons.mpr ⟨fun again => ?_, ih _⟩
      obtain ⟨other, member, same⟩ := List.mem_map.mp again
      exact (mem_fresh member).2 (same ▸ List.mem_cons_self)

end Request

namespace Plan

section Sources

variable (configuration : Configuration) (classification : Classification) (services : List String)

/-- The requests that the actions of a description make. -/
def mentioned : List Request :=
  Request.fresh [classification.trigger.key]
    (classification.actions.filterMap (mentionRequest? configuration.vocabulary))

/-- The requests that the services of the caller make besides. -/
def called : List Request :=
  Request.fresh (classification.trigger.key :: Request.keys (mentioned configuration classification))
    (services.filterMap (serviceRequest? configuration.vocabulary))

/-- The requests that the conditions of a description make. -/
def conditionRequests : List Request :=
  Request.fresh (Request.keys (triggerRequest classification.trigger :: actions configuration classification services))
    (classification.conditions.map (conditionRequest configuration.vocabulary))

/-- The requests that the data operations of a description make. -/
def dataOpRequests : List Request :=
  Request.fresh (Request.keys (triggerRequest classification.trigger ::
      actions configuration classification services ++ conditionRequests configuration classification services))
    (classification.dataOps.map dataOpRequest)

theorem namedActions_eq :
    namedActions configuration classification services =
      mentioned configuration classification ++ called configuration classification services :=
  Request.fresh_append _ _ _

theorem requests_eq :
    requests configuration classification services =
      triggerRequest classification.trigger :: (actions configuration classification services ++
        conditionRequests configuration classification services ++ dataOpRequests configuration classification services) :=
  rfl

end Sources

section Roles

variable {configuration : Configuration} {classification : Classification} {services : List String} {request : Request}

theorem role_stepOf {catalog : Catalog} (serves : catalog.Serves request.role request.key) :
    (stepOf catalog request).role = request.role := by
  unfold stepOf
  cases found : catalog.get? request.key with
  | some entry => exact serves entry found
  | none => rfl

theorem role_triggerRequest (checked : configuration.catalog.Checked) (trigger : Trigger) :
    (stepOf configuration.catalog (triggerRequest trigger)).role = .trigger := by
  obtain ⟨entry, found, isTrigger⟩ := checked.triggers trigger
  rw [role_stepOf_of_entry found, isTrigger]

variable (consistent : configuration.Consistent) (reads : configuration.vocabulary.Reads classification)

include consistent reads in
theorem role_mentioned (member : request ∈ mentioned configuration classification) :
    (stepOf configuration.catalog request).role = .action := by
  obtain ⟨mention, listed, made⟩ := List.mem_filterMap.mp (Request.mem_fresh member).1
  unfold mentionRequest? at made
  split at made
  · next key called =>
    cases made
    obtain ⟨word, named⟩ := reads.services mention listed key called
    exact role_stepOf (consistent.service word key named)
  · split at made
    · cases made
    · next isNoDataOp =>
      cases made
      exact role_stepOf (consistent.verb mention.verb (reads.verbs mention listed) isNoDataOp)

include consistent in
theorem role_defaultRequest (primary : String) :
    (stepOf configuration.catalog (defaultRequest configuration primary)).role = .action := by
  suffices serves : configuration.catalog.Serves .action (defaultRequest configuration primary).key from role_stepOf serves
  unfold defaultRequest
  dsimp only
  split
  · exact consistent.defaultAction
  · next isAction =>
    intro entry found
    simpa [found] using isAction

include consistent reads in
theorem role_conditionRequests (member : request ∈ conditionRequests configuration classification services) :
    (stepOf configuration.catalog request).role = .condition := by
  obtain ⟨keyword, listed, rfl⟩ := List.mem_map.mp (Request.mem_fresh member).1
  exact role_stepOf (consistent.condition keyword (reads.conditions keyword listed))

include consistent reads in
theorem role_dataOpRequests (member : request ∈ dataOpRequests configuration classification services) :
    (stepOf configuration.catalog request).role = .dataOp := by
  obtain ⟨keyword, listed, rfl⟩ := List.mem_map.mp (Request.mem_fresh member).1
  exact role_stepOf (consistent.dataOp keyword (reads.dataOps keyword listed))

end Roles

end Plan

end WorkflowSynthesis
