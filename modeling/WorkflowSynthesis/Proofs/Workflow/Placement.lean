import Mathlib.Data.List.Perm.Subperm
import WorkflowSynthesis.Proofs.Workflow.Wiring

/-!
Which steps a drawing places: every step of the plan but notes, each one once, with nothing changed but
its name and its error mode.
-/

namespace WorkflowSynthesis

/-- A step without what drawing may change: its name, and its error mode. -/
def Step.core (step : Step) : Step := { step with name := "", onError := none }

/-- The step of the plan that was placed, with its place in the plan; none at the end of a branch. -/
def Placement.planned? (placement : Placement) : Option (Nat × Step) :=
  placement.source.map fun index => (index, placement.node.step.core)

namespace Draft

variable {drawing : Drawing} {draft : Draft}

/-- The steps of the plan that were placed, in the order in which they were. -/
def planned (draft : Draft) : List (Nat × Step) := draft.placements.filterMap Placement.planned?

@[simp]
theorem planned_place (index : Nat) (step : Step) (stage lane : Nat) :
    (draft.place drawing (some index) step stage lane).planned = draft.planned ++ [(index, step.core)] := by
  simp [planned, place, Placement.planned?, nextNode, Step.core]

@[simp]
theorem planned_place_none (step : Step) (stage lane : Nat) :
    (draft.place drawing none step stage lane).planned = draft.planned := by
  simp [planned, place, Placement.planned?]

@[simp]
theorem planned_connect (source target : String) (output : Nat) :
    (draft.connect source output target).planned = draft.planned := rfl

@[simp]
theorem planned_addBranchEnd (node : Node) (output lane : Nat) :
    (draft.addBranchEnd drawing node output lane).planned = draft.planned := by
  simp [addBranchEnd]

@[simp]
theorem planned_addBranchEnds (node : Node) (stage : Nat) :
    (draft.addBranchEnds drawing node stage).planned = draft.planned := by
  refine addBranchEnds_induction (fun other => other.planned = draft.planned) node stage rfl ?_
  intro other output _ same
  rw [planned_addBranchEnd, same]

@[simp]
theorem planned_addTrigger (second : Option Node) (part : Nat × Step) :
    (draft.addTrigger drawing second part).planned = draft.planned ++ [(part.1, part.2.core)] := by
  obtain ⟨index, step⟩ := part
  cases second <;> simp [addTrigger]

@[simp]
theorem planned_routeFailures (guarded handler : String) :
    (draft.routeFailures drawing guarded handler).planned = draft.planned := by
  obtain ⟨output, placements, same, routed⟩ := draft.routeFailures_eq guarded handler
  rw [routed, planned_connect]
  have views := congrArg (List.filterMap id) (map_eq_of_silent same Placement.planned? fun _ => rfl)
  simpa only [planned, List.filterMap_map, Function.id_comp] using views

@[simp]
theorem planned_addHandler (tail : Option Node) (part : Nat × Step) :
    (draft.addHandler drawing tail part).planned = draft.planned ++ [(part.1, part.2.core)] := by
  obtain ⟨index, step⟩ := part
  cases found : draft.guarded? tail step with
  | some guarded => simp [addHandler_eq found]
  | none => rw [addHandler_none found, planned_place]

/-- Placing steps one after another, each in a way that places that step, places all of them. -/
theorem planned_foldl {add : Draft → Nat × Step → Draft}
    (single : ∀ draft part, (add draft part).planned = draft.planned ++ [(part.1, part.2.core)])
    (parts : List (Nat × Step)) (draft : Draft) :
    (parts.foldl add draft).planned = draft.planned ++ parts.map fun part => (part.1, part.2.core) := by
  induction parts generalizing draft with
  | nil => simp
  | cons part rest ih => simp [ih, single]

end Draft

namespace Chain

variable {drawing : Drawing} {chain : Chain}

@[simp]
theorem planned_extend (part : (Nat × Step) × Nat) :
    (extend drawing chain part).draft.planned = chain.draft.planned ++ [(part.1.1, part.1.2.core)] := by
  have appended : (append drawing chain part).planned = chain.draft.planned ++ [(part.1.1, part.1.2.core)] := by
    unfold append
    split <;> simp
  rw [extend_eq]
  dsimp only
  split <;> simp [appended]

theorem planned_ofSteps (parts : List (Nat × Step)) :
    (ofSteps drawing parts).draft.planned = parts.map fun part => (part.1, part.2.core) := by
  induction parts using List.reverseRecOn with
  | nil => rfl
  | append_singleton parts part ih => rw [ofSteps_concat, planned_extend, ih, List.map_append, List.map_singleton]

theorem planned_closed : (chain.closed drawing).planned = chain.draft.planned := by
  unfold closed
  split
  · split <;> simp
  · rfl

end Chain

namespace PlanParts

/-- All parts in the order in which they are placed. -/
def order (parts : PlanParts) : List (Nat × Step) := parts.chain ++ parts.triggers.drop 1 ++ parts.handlers

theorem order_perm_classes (parts : PlanParts) :
    parts.order.Perm (parts.triggers ++ parts.actions ++ parts.inline ++ parts.branching ++ parts.handlers) := by
  classical
  refine List.perm_iff_count.mpr fun part => ?_
  have triggers := congrArg (List.count part) (List.take_append_drop 1 parts.triggers)
  have actions := congrArg (List.count part) (List.take_append_drop 1 parts.actions)
  simp only [List.count_append] at triggers actions
  simp only [order, chain, List.count_append]
  omega

/-- Every step but notes is in exactly one part. -/
theorem order_perm (steps : List Step) :
    (ofSteps steps).order.Perm
      ((steps.zipIdx.map fun (step, index) => (index, step)).filter fun part => part.2.role ≠ .note) := by
  classical
  refine (order_perm_classes _).trans (List.perm_iff_count.mpr fun part => ?_)
  have count_select : ∀ (accept : Nat × Step → Bool) (parts : List (Nat × Step)),
      (parts.filter accept).count part = if accept part then parts.count part else 0 := by
    intro accept parts
    split
    · next accepted => exact List.count_filter accepted
    · next refused => exact List.count_eq_zero.mpr fun member => refused (List.mem_filter.mp member).2
  simp only [ofSteps, List.count_append, count_select]
  cases role : part.2.role with
  | condition => cases branching : decide (1 < part.2.outputs) <;> simp [role, Step.isBranching, branching]
  | _ => simp [role, Step.isBranching]

theorem getElem?_of_mem_order {steps : List Step} {part : Nat × Step} (listed : part ∈ (ofSteps steps).order) :
    steps[part.1]? = some part.2 := by
  rw [(order_perm steps).mem_iff] at listed
  obtain ⟨⟨step, index⟩, member, rfl⟩ := List.mem_map.mp (List.mem_of_mem_filter listed)
  exact List.mem_zipIdx_iff_getElem?.mp member

theorem getElem?_of_mem_chain {steps : List Step} {part : Nat × Step} (listed : part ∈ (ofSteps steps).chain) :
    steps[part.1]? = some part.2 :=
  getElem?_of_mem_order (List.mem_append_left _ (List.mem_append_left _ listed))

/-- Numbers do not matter for what is selected by the step. -/
theorem map_filter_numbered {α : Type} (steps : List Step) (accept : Step → Bool) (view : Step → α) :
    (((steps.zipIdx.map fun (step, index) => (index, step)).filter fun part => accept part.2).map
      fun part => view part.2) = (steps.filter accept).map view := by
  have unnumbered : steps.zipIdx.map Prod.fst = steps := List.zipIdx_map_fst 0 steps
  conv_rhs => rw [← unnumbered]
  simp only [List.filter_map, List.map_map]
  rfl

end PlanParts

namespace Workflow

/-- The places of the steps that are accepted, in the order of the plan. -/
def places (steps : List Step) (accept : Step → Bool) : List Nat :=
  (steps.zipIdx.filter fun part => accept part.1).map Prod.snd

/-- The places of a plan along its main chain: the first trigger, the first action, data operations and conditions with
one output, conditions with several outputs, and the other actions. -/
def mainChain (steps : List Step) : List Nat :=
  (places steps (·.role = .trigger)).take 1 ++ (places steps (·.role = .action)).take 1 ++
    places steps (fun step => step.role = .dataOp || (step.role = .condition && !step.isBranching)) ++
    places steps Step.isBranching ++ (places steps (·.role = .action)).drop 1

theorem mainChain_eq (steps : List Step) : mainChain steps = (PlanParts.ofSteps steps).chain.map Prod.fst := by
  have selected : ∀ accept : Step → Bool, places steps accept =
      ((steps.zipIdx.map fun part => (part.2, part.1)).filter fun part => accept part.2).map Prod.fst := by
    intro accept
    rw [List.filter_map, List.map_map]
    rfl
  simp only [mainChain, selected, PlanParts.chain, PlanParts.ofSteps, List.map_append, List.map_take, List.map_drop]

end Workflow

theorem Draft.planned_ofSteps (drawing : Drawing) (steps : List Step) :
    (ofSteps drawing steps).planned = (PlanParts.ofSteps steps).order.map fun part => (part.1, part.2.core) := by
  unfold ofSteps
  dsimp only
  rw [planned_foldl fun draft part => planned_addHandler _ part, planned_foldl fun draft part => planned_addTrigger _ part,
    Chain.planned_closed, Chain.planned_ofSteps]
  simp [PlanParts.order]

theorem Draft.mem_planned_ofSteps {drawing : Drawing} {steps : List Step} {index : Nat} {core : Step} :
    (index, core) ∈ (ofSteps drawing steps).planned ↔
      ∃ step, steps[index]? = some step ∧ step.role ≠ .note ∧ step.core = core := by
  simp [planned_ofSteps, (PlanParts.order_perm steps).mem_iff, List.mem_zipIdx_iff_getElem?, and_assoc]

theorem Draft.exists_node (drawing : Drawing) {steps : List Step} {step : Step} (member : step ∈ steps)
    (placed : step.role ≠ .note) : ∃ node ∈ (ofSteps drawing steps).nodes, node.step.core = step.core := by
  obtain ⟨index, place⟩ := List.mem_iff_getElem?.mp member
  have listed : (index, step.core) ∈ (ofSteps drawing steps).planned :=
    mem_planned_ofSteps.mpr ⟨step, place, placed, rfl⟩
  obtain ⟨placement, present, found⟩ := List.mem_filterMap.mp listed
  obtain ⟨_, _, same⟩ := Option.map_eq_some_iff.mp found
  exact ⟨placement.node, List.mem_map_of_mem present, (Prod.mk.inj same).2⟩

end WorkflowSynthesis
