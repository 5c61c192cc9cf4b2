import WorkflowSynthesis.Proofs.Workflow.Census

/-!
Drawings with one trigger are trees. No edge leads to the trigger, one edge leads to every other node, and every node
is reached from the trigger. Hanging a new node behind one that is there keeps this, and everything but the trigger is
hung.
-/

namespace WorkflowSynthesis

namespace Draft

variable {drawing : Drawing} {steps : List Step} {draft later : Draft} {root : String}

/-- The node with an identifier is the root of a tree of all nodes. -/
structure Tree (root : String) (draft : Draft) : Prop where
  member : root ∈ draft.ids
  origin : draft.connections.inboundCount root = 0
  single : ∀ id ∈ draft.ids, id ≠ root → draft.connections.inboundCount id = 1
  reached : ∀ id ∈ draft.ids, draft.connections.Reaches root id

theorem Laid.target_mem (laid : Laid drawing draft) {edge : Edge} (member : edge ∈ draft.connections.edges) :
    edge.target ∈ draft.ids := by
  obtain ⟨stage, _, target⟩ := laid.forward edge member
  obtain ⟨placement, listed, same⟩ := List.mem_map.mp target
  exact (Prod.mk.inj same).1 ▸ List.mem_map_of_mem (List.mem_map_of_mem listed)

/-- Edges lead to nodes that are there, so none leads to a new node yet. -/
theorem Laid.inboundCount_fresh (laid : Laid drawing draft) (distinct : Function.Injective drawing.identifiers) :
    draft.connections.inboundCount (drawing.identifiers draft.placements.length) = 0 :=
  Connections.inboundCount_eq_zero.mpr fun _ leads same => laid.fresh distinct (same ▸ laid.target_mem leads)

namespace Tree

theorem start (drawing : Drawing) (index : Nat) (step : Step) :
    Tree (drawing.identifiers 0) (({} : Draft).place drawing (some index) step 0 0) where
  member := List.mem_singleton_self _
  origin := rfl
  single id member other := absurd (List.mem_singleton.mp member) other
  reached id member := by
    rw [List.mem_singleton.mp member]
    exact .refl

theorem hang (tree : Tree root draft) (laid : Laid drawing draft) (distinct : Function.Injective drawing.identifiers)
    {parent : Placement} (present : parent ∈ draft.placements) (output : Nat) (origin : Option Nat) (step : Step)
    (lane : Nat) : Tree root (draft.hang drawing parent output origin step lane) := by
  have fresh := laid.fresh distinct
  have ids : (draft.hang drawing parent output origin step lane).ids =
      draft.ids ++ [drawing.identifiers draft.placements.length] := ids_place _ _ _ _
  have inbound : ∀ id, (draft.hang drawing parent output origin step lane).connections.inboundCount id =
      draft.connections.inboundCount id + if drawing.identifiers draft.placements.length = id then 1 else 0 :=
    fun id => Connections.inboundCount_connect _ _ _ _ _ _
  have kept : ∀ id ∈ draft.ids, (draft.hang drawing parent output origin step lane).connections.inboundCount id =
      draft.connections.inboundCount id := by
    intro id old
    have different : drawing.identifiers draft.placements.length ≠ id := fun same => fresh (same ▸ old)
    rw [inbound, if_neg different, Nat.add_zero]
  have grown : ∀ id ∈ draft.ids, (draft.hang drawing parent output origin step lane).connections.Reaches root id :=
    fun id old => (tree.reached id old).connect _ _ _ _
  constructor
  · rw [ids]
    exact List.mem_append_left _ tree.member
  · rw [kept root tree.member]
    exact tree.origin
  · rw [ids, List.forall_mem_append, List.forall_mem_singleton]
    refine ⟨fun id old other => (kept id old).trans (tree.single id old other), fun _ => ?_⟩
    rw [inbound, laid.inboundCount_fresh distinct, if_pos rfl]
  · rw [ids, List.forall_mem_append, List.forall_mem_singleton]
    have parentReached := grown parent.node.id (List.mem_map_of_mem (List.mem_map_of_mem present))
    exact ⟨grown, .tail parentReached (Connections.leads_connect _ _ _ _ _)⟩

theorem hangs (tree : Tree root draft) (laid : Laid drawing draft) (distinct : Function.Injective drawing.identifiers)
    (hangs : Hangs drawing steps draft later) : Tree root later := by
  cases hangs with
  | hang member => exact tree.hang laid distinct member _ _ _ _
  | @fail placement _ _ _ _ =>
    have ids : Draft.ids { draft with
        placements := changeFirst placement.node.id (Step.failing drawing.errorOutputMode) draft.placements } =
          draft.ids := ids_of_silent (silent_fail _ _ _)
    exact ⟨ids ▸ tree.member, tree.origin, ids ▸ tree.single, ids ▸ tree.reached⟩

theorem hung (tree : Tree root draft) (laid : Laid drawing draft) (distinct : Function.Injective drawing.identifiers)
    (hung : Hung drawing steps draft later) : Tree root later := by
  induction hung with
  | refl => exact tree
  | tail before hangs ih => exact ih.hangs (laid.moved (Hung.moved before)) distinct hangs

end Tree

section Trigger

variable (distinct : Function.Injective drawing.identifiers)
include distinct

/-- There are as many triggers in a drawing as in the plan. -/
theorem length_triggers_ofSteps (steps : List Step) :
    ((ofSteps drawing steps).nodes.filter (·.role = .trigger)).length = (steps.filter (·.role = .trigger)).length := by
  obtain ⟨drawn, ends, arranged, shown, branchEnds⟩ := exists_perm_ofSteps distinct steps
  have roles : drawn.map Node.role = (steps.filter (·.role ≠ .note)).map Step.role := by
    rw [← List.forall₂_eq_eq_eq, List.forall₂_map_left_iff, List.forall₂_map_right_iff]
    exact shown.imp fun _ _ shows => shows.role
  have untriggered : ends.filter (·.role = .trigger) = [] := by
    refine List.filter_eq_nil_iff.mpr fun node member => ?_
    obtain ⟨⟨parent, _, _, output, _, shows, _⟩, _⟩ := branchEnds node member
    simp [shows.role, Step.branchEnd]
  have counts := congrArg (fun roles => (roles.filter (· = .trigger)).length) roles
  simp only [List.filter_map, List.length_map, List.filter_filter] at counts
  rw [(arranged.filter _).length_eq, List.filter_append, untriggered, List.append_nil]
  refine counts.trans (congrArg List.length (List.filter_congr fun step _ => ?_))
  by_cases isTrigger : step.role = .trigger <;> simp [isTrigger]

/-- A drawing with one trigger is a tree, and the trigger is its root. -/
theorem tree_ofSteps {steps : List Step} (single : (steps.filter (·.role = .trigger)).length = 1) :
    ∃ root, (ofSteps drawing steps).nodes.filter (·.role = .trigger) = [root] ∧
      Tree root.id (ofSteps drawing steps) := by
  obtain ⟨index, trigger, _, isTrigger, hung⟩ := hung_ofSteps distinct single
  have laid : Laid drawing (({} : Draft).place drawing (some index) trigger 0 0) := Laid.empty.place _ _ rfl
  have tree := (Tree.start drawing index trigger).hung laid distinct hung
  obtain ⟨twin, held, same⟩ := (Extends.of_moved hung.moved).exists_placement (List.mem_singleton_self _)
  have id := Placement.eq_of_silent same (·.node.id) fun _ => rfl
  have role := Placement.eq_of_silent same (·.node.role) fun _ => rfl
  obtain ⟨root, only⟩ := List.length_eq_one_iff.mp ((length_triggers_ofSteps distinct steps).trans single)
  have listed : twin.node ∈ (ofSteps drawing steps).nodes.filter (·.role = .trigger) :=
    List.mem_filter.mpr ⟨List.mem_map_of_mem held, decide_eq_true (role.trans isTrigger)⟩
  rw [only, List.mem_singleton] at listed
  exact ⟨root, only, (listed ▸ id : root.id = drawing.identifiers 0) ▸ tree⟩

end Trigger

end Draft

namespace Workflow

/-- The drawing of a plan with one trigger is a tree: no edge leads to its trigger, one edge leads to every other node,
and every node is reached from the trigger. -/
theorem tree_build {identifiers : Identifiers} (distinct : Function.Injective identifiers)
    (configuration : Configuration) (name : String) {steps : List Step}
    (single : (steps.filter (·.role = .trigger)).length = 1) :
    let workflow := (build configuration identifiers name steps).1
    ∃ root, workflow.withRole .trigger = [root] ∧ workflow.connections.inboundCount root.id = 0 ∧
      (∀ node ∈ workflow.nodes, node ≠ root → workflow.connections.inboundCount node.id = 1) ∧
        ∀ node ∈ workflow.nodes, workflow.connections.Reaches root.id node.id := by
  intro workflow
  have laid : (Draft.ofSteps (drawing configuration identifiers) steps).Laid (drawing configuration identifiers) :=
    Draft.Laid.empty.moved (Draft.moved_ofSteps distinct steps)
  obtain ⟨root, only, tree⟩ := @Draft.tree_ofSteps (drawing configuration identifiers) distinct steps single
  have present : root ∈ workflow.nodes := (List.mem_filter.mp (only ▸ List.mem_singleton_self root)).1
  refine ⟨root, only, tree.origin, fun node member other => ?_, fun node member => ?_⟩
  · refine tree.single node.id (List.mem_map_of_mem member) fun same => other ?_
    exact List.inj_on_of_nodup_map (laid.nodup_ids distinct) member present same
  · exact tree.reached node.id (List.mem_map_of_mem member)

theorem tree_build_survey :
    ∃ configuration, Configuration.standard = .ok configuration ∧ Function.Injective (Identifiers.sequential "node") ∧
      (survey.filter (·.role = .trigger)).length = 1 ∧
        let workflow := (build configuration (.sequential "node") "Survey" survey).1
        ∃ root, workflow.withRole .trigger = [root] ∧ workflow.connections.inboundCount root.id = 0 ∧
          (∀ node ∈ workflow.nodes, node ≠ root → workflow.connections.inboundCount node.id = 1) ∧
            ∀ node ∈ workflow.nodes, workflow.connections.Reaches root.id node.id := by
  obtain ⟨configuration, accepted⟩ := Configuration.exists_standard
  have distinct := (Identifiers.proper_sequential "node").distinct
  exact ⟨configuration, accepted, distinct, rfl, tree_build distinct configuration "Survey" rfl⟩

end Workflow

end WorkflowSynthesis
