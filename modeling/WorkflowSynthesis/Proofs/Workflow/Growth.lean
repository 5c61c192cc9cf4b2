import Mathlib.Algebra.Order.BigOperators.Group.List
import Mathlib.Algebra.Order.Ring.Nat
import WorkflowSynthesis.Proofs.Workflow.Placement

/-!
How drafts grow: by steps of the plan and by ends of branches. What is placed is never changed but for its
error mode, and there are no more nodes than the steps have ways out, and one.
-/

namespace WorkflowSynthesis

namespace Step

theorem isBranching_iff {step : Step} : step.isBranching = true ↔ step.role = .condition ∧ 1 < step.outputs := by
  simp [isBranching]

theorem isBranching_eq_false {step : Step} (other : step.role ≠ .condition) : step.isBranching = false := by
  simp [isBranching, other]

end Step

theorem Placement.exists_silent {placements others : List Placement} {placement : Placement}
    (same : placements.map silent = others.map silent) (member : placement ∈ placements) :
    ∃ twin ∈ others, twin.silent = placement.silent :=
  List.mem_map.mp (same ▸ List.mem_map_of_mem member)

namespace Draft

variable {drawing : Drawing} {steps : List Step} {draft : Draft}

/-- The drafts that come of placing steps of a plan and ends of branches, of connecting, and of changing
error modes. -/
inductive Grown (drawing : Drawing) (steps : List Step) : Draft → Prop
  | empty : Grown drawing steps {}
  | place {draft : Draft} (grown : Grown drawing steps draft) {step : Step} (planned : step ∈ steps)
      (index stage lane : Nat) : Grown drawing steps (draft.place drawing (some index) step stage lane)
  | branchEnd {draft : Draft} (grown : Grown drawing steps draft) {node : Node} (member : node ∈ draft.nodes)
      (branching : node.step.isBranching = true) {output : Nat} (inside : output < node.step.outputs)
      (stage lane : Nat) :
      Grown drawing steps
        (draft.place drawing none (Step.branchEnd node.name node.step.outputs output) stage lane)
  | connect {draft : Draft} (grown : Grown drawing steps draft) (source target : String) (output : Nat) :
      Grown drawing steps (draft.connect source output target)
  | change {draft : Draft} (grown : Grown drawing steps draft) {placements : List Placement}
      (same : placements.map Placement.silent = draft.placements.map Placement.silent) :
      Grown drawing steps { draft with placements }

section Reach

theorem mem_nodes_addBranchEnd {node other : Node} {output lane : Nat} (member : other ∈ draft.nodes) :
    other ∈ (draft.addBranchEnd drawing node output lane).nodes := by
  simp [addBranchEnd, member]

theorem mem_nodes_addBranchEnds {node other : Node} {stage : Nat} (member : other ∈ draft.nodes) :
    other ∈ (draft.addBranchEnds drawing node stage).nodes :=
  addBranchEnds_induction (fun draft => other ∈ draft.nodes) node stage member
    fun _ _ _ held => mem_nodes_addBranchEnd held

theorem Grown.addBranchEnd (grown : Grown drawing steps draft) {node : Node} (member : node ∈ draft.nodes)
    (branching : node.step.isBranching = true) {output : Nat} (inside : output < node.step.outputs) (lane : Nat) :
    Grown drawing steps (draft.addBranchEnd drawing node output lane) :=
  (grown.branchEnd member branching inside _ lane).connect _ _ _

theorem Grown.addBranchEnds (grown : Grown drawing steps draft) {node : Node} (member : node ∈ draft.nodes)
    (branching : node.step.isBranching = true) (stage : Nat) :
    Grown drawing steps (draft.addBranchEnds drawing node stage) := by
  refine (addBranchEnds_induction (fun other => Grown drawing steps other ∧ node ∈ other.nodes)
    node stage ⟨grown, member⟩ ?_).1
  rintro other output inside ⟨otherGrown, held⟩
  exact ⟨otherGrown.addBranchEnd held branching inside _, mem_nodes_addBranchEnd held⟩

theorem Grown.addTrigger (grown : Grown drawing steps draft) {part : Nat × Step} (planned : part.2 ∈ steps)
    (second : Option Node) : Grown drawing steps (draft.addTrigger drawing second part) := by
  have placed := grown.place planned part.1 0 (draft.nextLane 0)
  cases second with
  | none => exact placed
  | some target => exact placed.connect _ _ _

theorem Grown.addHandler (grown : Grown drawing steps draft) {part : Nat × Step} (planned : part.2 ∈ steps)
    (tail : Option Node) : Grown drawing steps (draft.addHandler drawing tail part) := by
  obtain ⟨index, step⟩ := part
  cases found : draft.guarded? tail step with
  | some guarded =>
    rw [addHandler_eq found]
    generalize draft.stageOf guarded + 1 = stage
    have placed := grown.place planned index stage (draft.nextLane stage)
    obtain ⟨output, placements, same, routed⟩ :=
      (draft.place drawing (some index) step stage (draft.nextLane stage)).routeFailures_eq guarded
        (drawing.identifiers draft.placements.length)
    rw [routed]
    exact (placed.change same).connect _ _ _
  | none =>
    rw [addHandler_none found]
    exact grown.place planned _ _ _

end Reach

end Draft

namespace Chain

variable {drawing : Drawing} {steps : List Step} {chain : Chain}

/-- The draft of the chain has grown, and the chain ends at one of its nodes. -/
structure Grown (drawing : Drawing) (steps : List Step) (chain : Chain) : Prop where
  draft : chain.draft.Grown drawing steps
  tail : ∀ node ∈ chain.tail, node ∈ chain.draft.nodes

theorem Grown.extend (grown : Grown drawing steps chain) {part : (Nat × Step) × Nat} (planned : part.1.2 ∈ steps) :
    Grown drawing steps (extend drawing chain part) := by
  have appended : (append drawing chain part).Grown drawing steps := by
    have placed := grown.draft.place planned part.1.1 part.2 0
    unfold append
    split
    · exact placed.connect _ _ _
    · exact placed
  have present : nextNode drawing chain part ∈ (append drawing chain part).nodes := by
    unfold append
    split <;> simp [nextNode]
  rw [extend_eq]
  constructor
  · dsimp only
    split
    · next branching => exact appended.addBranchEnds present branching _
    · exact appended
  · dsimp only
    intro node last
    rw [← Option.mem_some_iff.mp last]
    split
    · exact Draft.mem_nodes_addBranchEnds present
    · exact present

theorem grown_ofSteps {parts : List (Nat × Step)} (planned : ∀ part ∈ parts, part.2 ∈ steps) :
    Grown drawing steps (ofSteps drawing parts) := by
  induction parts using List.reverseRecOn with
  | nil => exact ⟨.empty, fun node last => by cases last⟩
  | append_singleton parts part ih =>
    rw [List.forall_mem_append, List.forall_mem_singleton] at planned
    rw [ofSteps_concat]
    exact (ih planned.1).extend planned.2

theorem Grown.closed (grown : Grown drawing steps chain) : (chain.closed drawing).Grown drawing steps := by
  unfold Chain.closed
  split
  · next node last =>
    split
    · next branching =>
      have ways : 0 < node.step.outputs := Nat.zero_lt_of_lt (Step.isBranching_iff.mp branching).2
      exact grown.draft.addBranchEnd (grown.tail node last) branching ways 0
    · exact grown.draft
  · exact grown.draft

end Chain

namespace Draft

variable {drawing : Drawing} {steps : List Step} {draft : Draft}

theorem mem_of_mem_order {part : Nat × Step} (listed : part ∈ (PlanParts.ofSteps steps).order) : part.2 ∈ steps :=
  List.mem_of_getElem? (PlanParts.getElem?_of_mem_order listed)

/-- Every drawing has grown from its steps. -/
theorem grown_ofSteps (drawing : Drawing) (steps : List Step) : Grown drawing steps (ofSteps drawing steps) := by
  have planned : ∀ part ∈ (PlanParts.ofSteps steps).order, part.2 ∈ steps := fun _ => mem_of_mem_order
  rw [PlanParts.order, List.forall_mem_append, List.forall_mem_append] at planned
  obtain ⟨⟨chain, triggers⟩, handlers⟩ := planned
  unfold ofSteps
  refine List.foldlRecOn (motive := Grown drawing steps) _ _ ?_ fun draft grown part listed =>
    grown.addHandler (handlers part listed) _
  exact List.foldlRecOn (motive := Grown drawing steps) _ _ (Chain.grown_ofSteps chain).closed
    fun draft grown part listed => grown.addTrigger (triggers part listed) _

/-- Every node is that of a step of the plan, but for its name and its error mode, or ends a branch. -/
theorem Grown.origin (grown : Grown drawing steps draft) :
    ∀ placement ∈ draft.placements,
      (placement.source.isSome ∧ ∃ step ∈ steps, placement.node.step.core = step.core) ∨
        (placement.source = none ∧
          ∃ source outputs output, placement.node.step.core = (Step.branchEnd source outputs output).core) := by
  induction grown with
  | empty => simp
  | place _ planned _ _ _ ih =>
    rw [Draft.place, List.forall_mem_append, List.forall_mem_singleton]
    exact ⟨ih, .inl ⟨rfl, _, planned, rfl⟩⟩
  | @branchEnd draft _ node _ _ output _ stage lane ih =>
    rw [Draft.place, List.forall_mem_append, List.forall_mem_singleton]
    exact ⟨ih, .inr ⟨rfl, node.name, node.step.outputs, output, rfl⟩⟩
  | connect _ _ _ _ ih => exact ih
  | change _ same ih =>
    intro placement member
    obtain ⟨twin, held, equal⟩ := Placement.exists_silent same member
    have source := Placement.eq_of_silent equal (·.source) fun _ => rfl
    have core := Placement.eq_of_silent equal (·.node.step.core) fun _ => rfl
    rw [← source, ← core]
    exact ih twin held

/-- Identifiers are taken in order, one for each node. -/
theorem Grown.ids_eq (grown : Grown drawing steps draft) :
    draft.ids = (List.range draft.placements.length).map drawing.identifiers := by
  induction grown with
  | empty => rfl
  | place _ _ _ _ _ ih => simp [ih, List.range_succ]
  | branchEnd _ _ _ _ _ _ ih => simp [ih, List.range_succ]
  | connect _ _ _ _ ih => exact ih
  | change _ same ih =>
    have lengths := congrArg List.length same
    rw [List.length_map, List.length_map] at lengths
    rw [ids_of_silent same, ih, lengths]

end Draft

/-- The most nodes that are placed for a step, with the ends of its branches but one. -/
def Step.span (step : Step) : Nat := if step.isBranching then step.outputs else 1

section Size

variable (drawing : Drawing)

@[simp]
theorem Draft.length_addBranchEnd (draft : Draft) (node : Node) (output lane : Nat) :
    (draft.addBranchEnd drawing node output lane).placements.length = draft.placements.length + 1 := by
  simp [addBranchEnd]

theorem Draft.length_foldl {α : Type} {add : Draft → α → Draft}
    (single : ∀ draft item, (add draft item).placements.length = draft.placements.length + 1) (items : List α)
    (draft : Draft) : (items.foldl add draft).placements.length = draft.placements.length + items.length := by
  induction items generalizing draft with
  | nil => rfl
  | cons item rest ih => rw [List.foldl_cons, ih, single, List.length_cons, Nat.add_right_comm, Nat.add_assoc]

@[simp]
theorem Draft.length_addBranchEnds (draft : Draft) (node : Node) (stage : Nat) :
    (draft.addBranchEnds drawing node stage).placements.length =
      draft.placements.length + (node.step.outputs - 1) := by
  rw [addBranchEnds, length_foldl fun draft output => length_addBranchEnd drawing draft node output _,
    List.length_range']

theorem Chain.length_extend (chain : Chain) (part : (Nat × Step) × Nat) :
    (extend drawing chain part).draft.placements.length = chain.draft.placements.length + part.1.2.span := by
  have appended : (append drawing chain part).placements.length = chain.draft.placements.length + 1 := by
    unfold append
    split <;> simp
  rw [extend_eq, Step.span]
  dsimp only
  split
  · next branching =>
    have outputs : (nextNode drawing chain part).step.outputs = part.1.2.outputs := rfl
    have several := (Step.isBranching_iff.mp branching).2
    rw [Draft.length_addBranchEnds, appended, outputs]
    omega
  · exact appended

theorem Chain.length_ofSteps (parts : List (Nat × Step)) :
    (ofSteps drawing parts).draft.placements.length = (parts.map fun part => part.2.span).sum := by
  induction parts using List.reverseRecOn with
  | nil => rfl
  | append_singleton parts part ih =>
    rw [ofSteps_concat, length_extend, ih, List.map_append, List.sum_append, List.map_singleton, List.sum_singleton]

/-- Whether the branch at the end of the chain is ended last. -/
def Chain.endsBranching (chain : Chain) : Bool := chain.tail.any fun node => node.step.isBranching

theorem Chain.length_closed (chain : Chain) :
    (chain.closed drawing).placements.length = chain.draft.placements.length + if chain.endsBranching then 1 else 0 := by
  unfold closed endsBranching
  split
  · next node last =>
    rw [last, Option.any_some]
    split <;> simp
  · next unbegun =>
    rw [unbegun]
    rfl

theorem Draft.length_addTrigger (second : Option Node) (draft : Draft) (part : Nat × Step) :
    (draft.addTrigger drawing second part).placements.length = draft.placements.length + 1 := by
  cases second <;> simp [addTrigger]

theorem Draft.length_routeFailures (draft : Draft) (guarded handler : String) :
    (draft.routeFailures drawing guarded handler).placements.length = draft.placements.length := by
  obtain ⟨output, placements, same, routed⟩ := draft.routeFailures_eq guarded handler
  have lengths := congrArg List.length same
  rw [List.length_map, List.length_map] at lengths
  rw [routed, placements_connect, lengths]

theorem Draft.length_addHandler (tail : Option Node) (draft : Draft) (part : Nat × Step) :
    (draft.addHandler drawing tail part).placements.length = draft.placements.length + 1 := by
  obtain ⟨index, step⟩ := part
  cases found : draft.guarded? tail step with
  | some guarded => rw [addHandler_eq found, length_routeFailures, length_place]
  | none => rw [addHandler_none found, length_place]

theorem Step.span_eq_one {step : Step} (straight : step.role ≠ .condition) : step.span = 1 := by
  simp [span, isBranching, straight]

theorem Step.sum_span_straight {parts : List (Nat × Step)} (straight : ∀ part ∈ parts, part.2.role ≠ .condition) :
    (parts.map fun part => part.2.span).sum = parts.length := by
  rw [List.map_congr_left fun part listed => span_eq_one (straight part listed), List.map_const',
    List.sum_replicate_nat, Nat.mul_one]

/-- The size of a drawing: the ways out of its steps, and one for the branch that is ended last. -/
theorem Draft.length_ofSteps (steps : List Step) :
    (ofSteps drawing steps).placements.length =
      ((PlanParts.ofSteps steps).order.map fun part => part.2.span).sum +
        if (Chain.ofSteps drawing (PlanParts.ofSteps steps).chain).endsBranching then 1 else 0 := by
  have triggers : ∀ part ∈ (PlanParts.ofSteps steps).triggers.drop 1, part.2.role ≠ .condition := by
    intro part listed
    simp [(PlanParts.mem_triggers.mp (List.mem_of_mem_drop listed)).2]
  have handlers : ∀ part ∈ (PlanParts.ofSteps steps).handlers, part.2.role ≠ .condition := by
    intro part listed
    simp [(PlanParts.mem_handlers.mp listed).2]
  unfold ofSteps
  dsimp only
  rw [length_foldl (length_addHandler drawing _), length_foldl (length_addTrigger drawing _), Chain.length_closed,
    Chain.length_ofSteps, PlanParts.order, List.map_append, List.map_append, List.sum_append, List.sum_append,
    Step.sum_span_straight triggers, Step.sum_span_straight handlers]
  omega

theorem Draft.length_ofSteps_le (steps : List Step) :
    (ofSteps drawing steps).placements.length ≤ (steps.map Step.span).sum + 1 := by
  have order : ((PlanParts.ofSteps steps).order.map fun part => part.2.span).sum ≤ (steps.map Step.span).sum := by
    have unnumbered := congrArg (List.map Step.span) (List.zipIdx_map_fst 0 steps)
    rw [((PlanParts.order_perm steps).map fun part => part.2.span).sum_eq, ← unnumbered, List.map_map]
    refine (((List.filter_sublist).map fun part : Nat × Step => part.2.span).sum_le_sum fun _ _ => Nat.zero_le _).trans ?_
    rw [List.map_map]
    rfl
  rw [length_ofSteps]
  split <;> omega

end Size

end WorkflowSynthesis
