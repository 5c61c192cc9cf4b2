import Mathlib.Data.List.Pairwise
import WorkflowSynthesis.Proofs.Plan.Requests
import WorkflowSynthesis.Proofs.Review.Verdicts

/-!
The order of the steps of a plan: a trigger, then actions, conditions, data operations and handlers. Words
of a description always keep to it; the services of a caller may name entries of any role, and it is told
exactly which of them do.
-/

namespace WorkflowSynthesis

/-- The place of a role in the order of a plan. -/
def Role.rank : Role → Nat
  | .trigger => 0
  | .action => 1
  | .condition => 2
  | .dataOp => 3
  | .errorHandler => 4
  | .note => 5

namespace Plan

/-- One trigger, at least one action, and then conditions, data operations and handlers. -/
def InOrder (roles : List Role) : Prop :=
  ∃ actions conditions dataOps handlers, 0 < actions ∧
    roles = .trigger :: (List.replicate actions .action ++ List.replicate conditions .condition ++
      List.replicate dataOps .dataOp ++ List.replicate handlers .errorHandler)

section Roles

variable {roles : List Role}

theorem eq_replicates (ascending : roles.Pairwise fun earlier later => earlier.rank ≤ later.rank)
    (noTrigger : .trigger ∉ roles) (noNote : .note ∉ roles) :
    roles = List.replicate (roles.count .action) .action ++ List.replicate (roles.count .condition) .condition ++
      List.replicate (roles.count .dataOp) .dataOp ++ List.replicate (roles.count .errorHandler) .errorHandler := by
  induction roles with
  | nil => rfl
  | cons role rest ih =>
    obtain ⟨least, ascending⟩ := List.pairwise_cons.mp ascending
    simp only [List.mem_cons, not_or] at noTrigger noNote
    have rest_eq := ih ascending noTrigger.2 noNote.2
    have none_below : ∀ other : Role, other.rank < role.rank → rest.count other = 0 := by
      intro other below
      refine List.count_eq_zero.mpr fun member => ?_
      have above := least other member
      omega
    cases role with
    | trigger => exact absurd rfl noTrigger.1
    | note => exact absurd rfl noNote.1
    | action => simpa [List.replicate_succ] using rest_eq
    | condition => simpa [List.replicate_succ, none_below .action (by decide)] using rest_eq
    | dataOp =>
      simpa [List.replicate_succ, none_below .action (by decide), none_below .condition (by decide)] using rest_eq
    | errorHandler =>
      simpa [List.replicate_succ, none_below .action (by decide), none_below .condition (by decide),
        none_below .dataOp (by decide)] using rest_eq

/-- After the trigger, order is that of ranks. -/
theorem inOrder_cons :
    InOrder (.trigger :: roles) ↔ (roles.Pairwise fun earlier later => earlier.rank ≤ later.rank) ∧
      .trigger ∉ roles ∧ .note ∉ roles ∧ .action ∈ roles := by
  constructor
  · rintro ⟨actions, conditions, dataOps, handlers, positive, same⟩
    obtain rfl := (List.cons.inj same).2
    refine ⟨?_, by simp, by simp, by simp [Nat.ne_of_gt positive]⟩
    simp only [List.pairwise_append, List.pairwise_replicate, List.mem_append, List.mem_replicate]
    grind [Role.rank]
  · rintro ⟨ascending, noTrigger, noNote, acts⟩
    exact ⟨_, _, _, _, List.count_pos_iff.mpr acts, congrArg (Role.trigger :: ·) (eq_replicates ascending noTrigger noNote)⟩

/-- Roles put after the actions of a sequence in order. -/
theorem inOrder_insert_iff {actions conditions dataOps handlers : Nat} (noHandler : .errorHandler ∉ roles)
    (noNote : .note ∉ roles) :
    InOrder (.trigger :: (List.replicate actions .action ++ roles ++ List.replicate conditions .condition ++
        List.replicate dataOps .dataOp ++ List.replicate handlers .errorHandler)) ↔
      (roles.Pairwise fun earlier later => earlier.rank ≤ later.rank) ∧ .trigger ∉ roles ∧
        (actions = 0 → .action ∈ roles) ∧ (.dataOp ∈ roles → conditions = 0) := by
  rw [inOrder_cons]
  simp only [List.pairwise_append, List.pairwise_replicate, List.mem_append, List.mem_replicate]
  constructor
  · rintro ⟨ascending, noTrigger, _, acts⟩
    grind [Role.rank]
  · rintro ⟨ascending, noTrigger, acts, last⟩
    have ranks : ∀ role ∈ roles, role = .action ∨ role = .condition ∨ role = .dataOp := by
      intro role member
      cases role <;> simp_all
    grind [Role.rank]

end Roles

section Steps

variable (configuration : Configuration) (classification : Classification) (overrides : Overrides)
  (services : List String)

/-- The roles of the entries that the services of the caller name. -/
def calledRoles : List Role :=
  (called configuration classification services).map fun request => (stepOf configuration.catalog request).role

variable {configuration classification services}

theorem map_eq_replicate {α : Type} {requests : List Request} {view : Request → α} {value : α}
    (same : ∀ request ∈ requests, view request = value) : requests.map view = List.replicate requests.length value :=
  List.eq_replicate_iff.mpr ⟨List.length_map _, List.forall_mem_map.mpr same⟩

theorem calledRoles_eq_nil : calledRoles configuration classification services = [] ↔
    called configuration classification services = [] := List.map_eq_nil_iff

theorem roles_handlers (policy : FailurePolicy) (steps : List Step) :
    (handlers policy steps).map (·.role) = List.replicate (handlers policy steps).length .errorHandler := by
  refine List.eq_replicate_iff.mpr ⟨List.length_map _, List.forall_mem_map.mpr fun handler member => ?_⟩
  obtain ⟨_, pattern, _, index, step, _, _, rfl⟩ := mem_handlers.mp member
  rfl

theorem calledRoles_noHandler (consistent : configuration.Consistent) {role : Role}
    (member : role ∈ calledRoles configuration classification services) : role ≠ .errorHandler ∧ role ≠ .note := by
  obtain ⟨request, listed, rfl⟩ := List.mem_map.mp member
  obtain ⟨service, _, made⟩ := List.mem_filterMap.mp (Request.mem_fresh listed).1
  unfold stepOf
  cases found : configuration.catalog.get? request.key with
  | some entry => exact consistent.entries request.key entry found
  | none =>
    have isAction : request.role = .action := by
      unfold serviceRequest? at made
      dsimp only at made
      split at made
      · cases made
      · cases made
        rfl
    simp [isAction]

variable (consistent : configuration.Consistent) (reads : configuration.vocabulary.Reads classification)
include consistent reads

variable (services) in
theorem roles_actions :
    ∃ count, (count = 0 ↔ mentioned configuration classification = [] ∧
        calledRoles configuration classification services ≠ []) ∧
      (actions configuration classification services).map (fun request => (stepOf configuration.catalog request).role) =
        List.replicate count .action ++ calledRoles configuration classification services := by
  have byMention := map_eq_replicate fun _ : Request => role_mentioned consistent reads
  unfold actions
  split
  · next unnamed =>
    rw [namedActions_eq, List.append_eq_nil_iff] at unnamed
    refine ⟨1, by simp [calledRoles_eq_nil, unnamed.2], ?_⟩
    simp [calledRoles, unnamed.2, role_defaultRequest consistent]
  · next named =>
    rw [namedActions_eq, List.append_eq_nil_iff] at named
    refine ⟨(mentioned configuration classification).length, ?_, ?_⟩
    · rw [List.length_eq_zero_iff, ne_eq, calledRoles_eq_nil]
      exact ⟨fun unmentioned => ⟨unmentioned, fun further => named ⟨unmentioned, further⟩⟩, And.left⟩
    · rw [namedActions_eq, List.map_append, byMention]
      rfl

variable (services) in
theorem roles_steps (checked : configuration.catalog.Checked) :
    ∃ actions handlers, (actions = 0 ↔ mentioned configuration classification = [] ∧
        calledRoles configuration classification services ≠ []) ∧
      (ofClassification configuration classification overrides services).steps.map (·.role) =
        .trigger :: (List.replicate actions .action ++ calledRoles configuration classification services ++
          List.replicate (conditionRequests configuration classification services).length .condition ++
          List.replicate (dataOpRequests configuration classification services).length .dataOp ++
          List.replicate handlers .errorHandler) := by
  obtain ⟨count, bare, byAction⟩ := roles_actions services consistent reads
  refine ⟨count, (handlers configuration.failures
    (calledSteps configuration classification overrides services)).length, bare, ?_⟩
  rw [steps_ofClassification, List.map_append, roles_handlers,
    map_calledSteps configuration classification overrides services Step.role fun _ _ _ => rfl,
    requests_eq, List.map_cons, List.map_append, List.map_append, byAction,
    map_eq_replicate fun _ : Request => role_conditionRequests consistent reads,
    map_eq_replicate fun _ : Request => role_dataOpRequests consistent reads,
    role_triggerRequest checked]
  simp

variable (checked : configuration.catalog.Checked)
include checked

/-- A plan is in order if and only if the services of the caller let it be. -/
theorem inOrder_steps_iff :
    InOrder ((ofClassification configuration classification overrides services).steps.map (·.role)) ↔
      ((calledRoles configuration classification services).Pairwise fun earlier later => earlier.rank ≤ later.rank) ∧
        .trigger ∉ calledRoles configuration classification services ∧
          (mentioned configuration classification = [] → calledRoles configuration classification services ≠ [] →
            .action ∈ calledRoles configuration classification services) ∧
            (.dataOp ∈ calledRoles configuration classification services →
              conditionRequests configuration classification services = []) := by
  obtain ⟨actions, handlers, bare, roles⟩ := roles_steps overrides services consistent reads checked
  have noHandler : .errorHandler ∉ calledRoles configuration classification services :=
    fun member => (calledRoles_noHandler consistent member).1 rfl
  have noNote : .note ∉ calledRoles configuration classification services :=
    fun member => (calledRoles_noHandler consistent member).2 rfl
  rw [roles, inOrder_insert_iff noHandler noNote, bare, List.length_eq_zero_iff, and_imp]

theorem identifyComponents_steps_iff :
    (Review.identifyComponents (some (ofClassification configuration classification overrides services))).passed = true ↔
      .trigger ∉ calledRoles configuration classification services ∧
        (mentioned configuration classification = [] → calledRoles configuration classification services ≠ [] →
          .action ∈ calledRoles configuration classification services) := by
  obtain ⟨actions, handlers, bare, roles⟩ := roles_steps overrides services consistent reads checked
  rw [Review.identifyComponents_passed, roles]
  have acts : ¬actions = 0 ∨ .action ∈ calledRoles configuration classification services ↔
      (mentioned configuration classification = [] → calledRoles configuration classification services ≠ [] →
        .action ∈ calledRoles configuration classification services) := by
    rw [bare]
    tauto
  simp [List.count_eq_zero, ← acts, List.count_replicate]

end Steps

/-- The plan of every description under the standard configuration, with any services of the caller: what
these must be like, and nothing else, decides whether it is in order and whether its components are passed. -/
theorem standard_inOrder_iff (description : String) (overrides : Overrides) (services : List String) :
    ∃ configuration, Configuration.standard = .ok configuration ∧
      let classification := configuration.vocabulary.classify description
      let plan := ofClassification configuration classification overrides services
      let named := calledRoles configuration classification services
      let acts := mentioned configuration classification = [] → named ≠ [] → .action ∈ named
      (InOrder (plan.steps.map (·.role)) ↔
        (named.Pairwise fun earlier later => earlier.rank ≤ later.rank) ∧ .trigger ∉ named ∧ acts ∧
          (.dataOp ∈ named → conditionRequests configuration classification services = [])) ∧
      ((Review.identifyComponents (some plan)).passed = true ↔ .trigger ∉ named ∧ acts) := by
  obtain ⟨configuration, accepted⟩ := Configuration.exists_standard
  refine ⟨configuration, accepted, ?_⟩
  have checked := (Configuration.checked_of_ofSettings accepted).catalog
  have consistent := Configuration.consistent_of_follows (Configuration.follows_of_ofSettings accepted)
  have reads : configuration.vocabulary.Reads _ := Vocabulary.reads_classify description
  exact ⟨inOrder_steps_iff overrides consistent reads checked,
    identifyComponents_steps_iff overrides consistent reads checked⟩

end Plan

end WorkflowSynthesis
