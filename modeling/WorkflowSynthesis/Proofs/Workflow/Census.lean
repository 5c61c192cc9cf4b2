import Mathlib.Data.List.Forall2
import WorkflowSynthesis.Proofs.Workflow.Layout
import WorkflowSynthesis.Proofs.Workflow.Names

/-!
The nodes of drawings. Every step of the plan but notes has one node, which differs from it in nothing but its name and
its error mode, every other node ends a branch, and from the steps alone it is known how many nodes there are.
-/

namespace WorkflowSynthesis

/-- Whether a node shows a step: it is the step but for the name, which may have a number, and but for the error mode,
which may be set if the step has an error output. -/
structure Node.Shows (mode : String) (node : Node) (step : Step) : Prop where
  kept : node.step = { step with name := node.name, onError := node.step.onError }
  name : node.name = step.name ∨ ∃ number, 2 ≤ number ∧ node.name = Free.numbered step.name " " number
  onError : node.step.onError = step.onError ∨
    (step.errorOutput = true ∧ mode ≠ "" ∧ node.step.onError = some mode)

/-- Whether a node is led to from one of the outputs of a branching node, and shows the end of this branch. -/
def Node.EndsBranch (mode : String) (nodes : List Node) (connections : Connections) (node : Node) : Prop :=
  ∃ parent ∈ nodes, parent.step.isBranching = true ∧ ∃ output < parent.step.outputs,
    node.Shows mode (Step.branchEnd parent.name parent.step.outputs output) ∧
      { source := parent.id, output, target := node.id, input := 0 } ∈ connections.edges

theorem Node.Shows.fail {mode : String} {node : Node} {step : Step} (shows : node.Shows mode step)
    (telling : node.step.errorOutput = true) (set : mode ≠ "") :
    Node.Shows mode { node with step := Step.failing mode node.step } step where
  kept := congrArg (Step.failing mode) shows.kept
  name := shows.name
  onError := by
    rw [shows.kept] at telling
    exact .inr ⟨telling, set, rfl⟩

theorem Node.Shows.role {mode : String} {node : Node} {step : Step} (shows : node.Shows mode step) :
    node.role = step.role := by
  rw [Node.role, shows.kept]

theorem Node.EndsBranch.extend {mode : String} {node : Node} {draft later : Draft}
    (ends : node.EndsBranch mode draft.nodes draft.connections) (extends' : Draft.Extends draft later) :
    node.EndsBranch mode later.nodes later.connections := by
  obtain ⟨parent, member, branching, output, inside, shows, edge⟩ := ends
  obtain ⟨placement, listed, rfl⟩ := List.mem_map.mp member
  obtain ⟨twin, held, same⟩ := extends'.exists_placement listed
  have id := Placement.eq_of_silent same (·.node.id) fun _ => rfl
  have name := Placement.eq_of_silent same (·.node.name) fun _ => rfl
  have outputs := Placement.eq_of_silent same (·.node.step.outputs) fun _ => rfl
  have isBranching := Placement.eq_of_silent same (·.node.step.isBranching) fun _ => rfl
  refine ⟨twin.node, List.mem_map_of_mem held, isBranching.trans branching, output, outputs ▸ inside, ?_, ?_⟩
  · rwa [name, outputs]
  · rw [id]
    exact extends'.edges _ edge

namespace Draft

variable {drawing : Drawing} {steps : List Step} {draft later : Draft}

section Tracing

theorem shows_nextNode (mode : String) (step : Step) (stage lane : Nat) :
    (draft.nextNode drawing step stage lane).Shows mode step where
  kept := rfl
  name := (Free.name_eq draft.names step.name).imp_right fun ⟨number, least, _, same⟩ => ⟨number, least, same⟩
  onError := .inl rfl

theorem mem_changeFirst {id : String} {change : Step → Step} {placements : List Placement} {placement : Placement}
    (member : placement ∈ changeFirst id change placements) :
    placement ∈ placements ∨ ∃ old ∈ placements, old.node.id = id ∧
      placement = { old with node := { old.node with step := change old.node.step } } := by
  induction placements with
  | nil => cases member
  | cons first rest ih =>
    unfold changeFirst at member
    split at member
    · next same =>
      rcases List.mem_cons.mp member with changed | later
      · exact .inr ⟨first, List.mem_cons_self, same, changed⟩
      · exact .inl (List.mem_cons_of_mem _ later)
    · rcases List.mem_cons.mp member with rfl | later
      · exact .inl List.mem_cons_self
      · rcases ih later with old | ⟨old, listed, found⟩
        · exact .inl (List.mem_cons_of_mem _ old)
        · exact .inr ⟨old, List.mem_cons_of_mem _ listed, found⟩

/-- Every node of a step of the plan shows this step, every other node ends a branch, and edges come from nodes of
steps of the plan. -/
structure Traced (drawing : Drawing) (steps : List Step) (draft : Draft) : Prop where
  planned : ∀ placement ∈ draft.placements, ∀ index ∈ placement.source,
    ∃ step, steps[index]? = some step ∧ placement.node.Shows drawing.errorOutputMode step
  ends : ∀ placement ∈ draft.placements, placement.source = none →
    placement.node.EndsBranch drawing.errorOutputMode draft.nodes draft.connections
  sources : ∀ edge ∈ draft.connections.edges, draft.OfPlan edge.source

namespace Traced

theorem empty : Traced drawing steps {} where
  planned placement member := by simp at member
  ends placement member := by simp at member
  sources edge member := by simp [Connections.edges, Connections.empty, Dictionary.empty] at member

/-- A node more, and edges that come from nodes of steps. -/
theorem add (traced : Traced drawing steps draft) (extends' : Extends draft later) {new : Placement}
    (placed : later.placements = draft.placements ++ [new])
    (planned : ∀ index ∈ new.source, ∃ step, steps[index]? = some step ∧ new.node.Shows drawing.errorOutputMode step)
    (ends : new.source = none → new.node.EndsBranch drawing.errorOutputMode later.nodes later.connections)
    (sources : ∀ edge ∈ later.connections.edges, edge ∈ draft.connections.edges ∨ later.OfPlan edge.source) :
    Traced drawing steps later where
  planned := by
    rw [placed, List.forall_mem_append, List.forall_mem_singleton]
    exact ⟨traced.planned, planned⟩
  ends := by
    rw [placed, List.forall_mem_append, List.forall_mem_singleton]
    exact ⟨fun placement member origin => (traced.ends placement member origin).extend extends', ends⟩
  sources edge member := (sources edge member).elim (fun old => (traced.sources edge old).extend extends') id

theorem hang (traced : Traced drawing steps draft) {parent : Placement} (member : parent ∈ draft.placements)
    (ofPlan : parent.source.isSome) {output : Nat} {origin : Option Nat} {step : Step}
    (offered : Offered steps parent output origin step) (lane : Nat) :
    Traced drawing steps (draft.hang drawing parent output origin step lane) := by
  have extends' : Extends draft (draft.hang drawing parent output origin step lane) :=
    (Extends.place draft origin step (parent.stage + 1) lane).trans (.connect _ _ _ _)
  have listed : parent ∈ (draft.hang drawing parent output origin step lane).placements := List.mem_append_left _ member
  refine traced.add extends' rfl ?_ ?_ ?_
  · intro index source
    cases offered with
    | planned place => exact ⟨step, Option.mem_some_iff.mp source ▸ place, shows_nextNode _ _ _ _⟩
    | branchEnd => cases source
  · intro source
    cases offered with
    | planned => cases source
    | branchEnd branching inside =>
      exact ⟨parent.node, List.mem_map_of_mem listed, branching, output, inside, shows_nextNode _ _ _ _,
        Connections.mem_edges_connect.mpr (.inl rfl)⟩
  · intro edge leads
    rcases Connections.mem_edges_connect.mp leads with rfl | old
    · exact .inr ⟨parent, listed, rfl, ofPlan⟩
    · exact .inl old

theorem fail (traced : Traced drawing steps draft) (laid : Laid drawing draft)
    (distinct : Function.Injective drawing.identifiers) {failing : Placement} (member : failing ∈ draft.placements)
    (ofPlan : failing.source.isSome) (telling : failing.node.step.errorOutput = true)
    (mode : drawing.errorOutputMode ≠ "") :
    Traced drawing steps { draft with
      placements := changeFirst failing.node.id (Step.failing drawing.errorOutputMode) draft.placements } := by
  have extends' := Extends.fail draft failing.node.id drawing.errorOutputMode
  have changed : ∀ placement ∈ changeFirst failing.node.id (Step.failing drawing.errorOutputMode) draft.placements,
      placement ∈ draft.placements ∨ placement =
        { failing with node := { failing.node with step := Step.failing drawing.errorOutputMode failing.node.step } } := by
    intro placement listed
    refine (mem_changeFirst listed).imp_right ?_
    rintro ⟨old, held, same, rfl⟩
    rw [laid.unique distinct held member same]
  constructor
  · intro placement listed index source
    rcases changed placement listed with old | rfl
    · exact traced.planned placement old index source
    · obtain ⟨step, place, shows⟩ := traced.planned failing member index source
      exact ⟨step, place, shows.fail telling mode⟩
  · intro placement listed source
    rcases changed placement listed with old | rfl
    · exact (traced.ends placement old source).extend extends'
    · have unplanned : failing.source = none := source
      simp [unplanned] at ofPlan
  · exact fun edge leads => (traced.sources edge leads).extend extends'

theorem moves (traced : Traced drawing steps draft) (laid : Laid drawing draft)
    (distinct : Function.Injective drawing.identifiers) (moves : Moves drawing steps draft later) :
    Traced drawing steps later := by
  cases moves with
  | hangs hangs =>
    cases hangs with
    | hang member ofPlan offered => exact traced.hang member ofPlan offered _
    | fail member ofPlan telling mode => exact traced.fail laid distinct member ofPlan telling mode
  | start place =>
    refine traced.add (.place _ _ _ _ _) rfl ?_ (fun source => by cases source) fun edge old => .inl old
    exact fun index source => ⟨_, Option.mem_some_iff.mp source ▸ place, shows_nextNode _ _ _ _⟩
  | lead place =>
    refine traced.add ((Extends.place _ _ _ _ _).trans (.connect _ _ _ _)) rfl ?_ (fun source => by cases source) ?_
    · exact fun index source => ⟨_, Option.mem_some_iff.mp source ▸ place, shows_nextNode _ _ _ _⟩
    · intro edge leads
      rcases Connections.mem_edges_connect.mp leads with rfl | old
      · exact .inr ⟨_, List.mem_append_right _ (List.mem_singleton_self _), rfl, rfl⟩
      · exact .inl old

theorem moved (distinct : Function.Injective drawing.identifiers) (moved : Moved drawing steps {} later) :
    Traced drawing steps later := by
  induction moved with
  | refl => exact empty
  | tail before moves ih => exact ih.moves (Laid.empty.moved before) distinct moves

/-- No edge comes from a node that ends a branch. -/
theorem outgoing_eq_nil (traced : Traced drawing steps draft) (laid : Laid drawing draft)
    (distinct : Function.Injective drawing.identifiers) {placement : Placement} (member : placement ∈ draft.placements)
    (origin : placement.source = none) : draft.connections.outgoing placement.node.id = [] := by
  refine List.filter_eq_nil_iff.mpr fun edge leads => ?_
  obtain ⟨source, listed, same, ofPlan⟩ := traced.sources edge leads
  intro here
  rw [decide_eq_true_eq] at here
  rw [laid.unique distinct listed member (same.trans here), origin] at ofPlan
  cases ofPlan

end Traced

theorem traced_ofSteps (distinct : Function.Injective drawing.identifiers) (steps : List Step) :
    Traced drawing steps (ofSteps drawing steps) :=
  .moved distinct (moved_ofSteps distinct steps)

end Tracing

section Correspondence

/-- The placements of steps, in the order of the parts that name these steps, show them. -/
theorem forall₂_shows {mode : String} {placements : List Placement} {parts : List (Nat × Step)}
    (sources : placements.filterMap (·.source) = parts.map Prod.fst)
    (planned : ∀ placement ∈ placements, ∀ index ∈ placement.source,
      ∃ step, steps[index]? = some step ∧ placement.node.Shows mode step)
    (listed : ∀ part ∈ parts, steps[part.1]? = some part.2) :
    List.Forall₂ (fun placement part => placement.node.Shows mode part.2)
      (placements.filter (·.source.isSome)) parts := by
  induction placements generalizing parts with
  | nil =>
    obtain rfl : parts = [] := List.map_eq_nil_iff.mp sources.symm
    exact .nil
  | cons placement rest ih =>
    obtain ⟨first, others⟩ := List.forall_mem_cons.mp planned
    cases origin : placement.source with
    | none =>
      rw [List.filterMap_cons_none origin] at sources
      rw [List.filter_cons_of_neg (by simp [origin])]
      exact ih sources others listed
    | some index =>
      rw [List.filterMap_cons_some origin] at sources
      rw [List.filter_cons_of_pos (by simp [origin])]
      cases parts with
      | nil => cases sources
      | cons part parts =>
        obtain ⟨rfl, others'⟩ := List.cons.inj sources
        obtain ⟨here, later⟩ := List.forall_mem_cons.mp listed
        obtain ⟨step, place, shows⟩ := first part.1 origin
        obtain rfl : step = part.2 := Option.some.inj (place.symm.trans here)
        exact .cons shows (ih others' others later)

variable (distinct : Function.Injective drawing.identifiers)
include distinct

/-- The nodes of a drawing are one for each step of the plan but notes, which shows it, and ends of branches. -/
theorem exists_perm_ofSteps (steps : List Step) : ∃ drawn ends,
    (ofSteps drawing steps).nodes.Perm (drawn ++ ends) ∧
      List.Forall₂ (Node.Shows drawing.errorOutputMode) drawn (steps.filter (·.role ≠ .note)) ∧
        ∀ node ∈ ends, node.EndsBranch drawing.errorOutputMode (ofSteps drawing steps).nodes
          (ofSteps drawing steps).connections ∧ (ofSteps drawing steps).connections.outgoing node.id = [] := by
  have laid := laid_ofSteps distinct steps
  have traced := traced_ofSteps distinct steps
  have shows := forall₂_shows (sources_ofSteps drawing steps) traced.planned fun _ => PlanParts.getElem?_of_mem_order
  -- The steps of the plan were placed in another order than that of the plan.
  obtain ⟨inOrder, arranged, matched⟩ :
      Relation.Comp List.Perm
        (List.Forall₂ fun placement part => Node.Shows drawing.errorOutputMode placement.node part.2)
        ((ofSteps drawing steps).placements.filter (·.source.isSome))
        ((steps.zipIdx.map Prod.swap).filter fun part => part.2.role ≠ .note) := by
    rw [← List.forall₂_comp_perm_eq_perm_comp_forall₂]
    exact ⟨_, shows, PlanParts.order_perm steps⟩
  refine ⟨inOrder.map (·.node), ((ofSteps drawing steps).placements.filter (!·.source.isSome)).map (·.node), ?_, ?_, ?_⟩
  · have split := List.filter_append_perm (·.source.isSome) (ofSteps drawing steps).placements
    rw [← List.map_append]
    exact (split.symm.trans (arranged.append_right _)).map _
  · have selected := PlanParts.map_filter_numbered steps (·.role ≠ .note) id
    rw [List.map_id] at selected
    rw [← selected, List.forall₂_map_left_iff, List.forall₂_map_right_iff]
    exact matched
  · intro node member
    obtain ⟨placement, listed, rfl⟩ := List.mem_map.mp member
    obtain ⟨held, origin⟩ := List.mem_filter.mp listed
    have unplanned : placement.source = none := by simpa using origin
    exact ⟨traced.ends placement held unplanned, traced.outgoing_eq_nil laid distinct held unplanned⟩

end Correspondence

end Draft

section Size

/-- The chain ends at the node of its last step. -/
theorem Chain.endsBranching_ofSteps (drawing : Drawing) (parts : List (Nat × Step)) :
    (ofSteps drawing parts).endsBranching = parts.getLast?.any fun part => part.2.isBranching := by
  rcases List.eq_nil_or_concat parts with rfl | ⟨before, last, rfl⟩
  · rfl
  · rw [List.concat_eq_append, ofSteps_concat, endsBranching, tail_extend, List.getLast?_concat]
    simp [nextNode, Draft.nextNode, Step.isBranching]

theorem PlanParts.isBranching_straight {steps : List Step} {part : Nat × Step}
    (listed : part ∈ (ofSteps steps).triggers.take 1 ++ (ofSteps steps).actions.take 1 ++ (ofSteps steps).inline) :
    part.2.isBranching = false := by
  rw [List.mem_append, List.mem_append] at listed
  rcases listed with (inTriggers | inActions) | inLine
  · have isTrigger := (mem_triggers.mp (List.mem_of_mem_take inTriggers)).2
    exact Step.isBranching_eq_false (by simp [isTrigger])
  · have isAction := (mem_actions.mp (List.mem_of_mem_take inActions)).2
    exact Step.isBranching_eq_false (by simp [isAction])
  · have kind := (List.mem_filter.mp inLine).2
    simp only [Bool.or_eq_true, Bool.and_eq_true, decide_eq_true_eq, Bool.not_eq_true'] at kind
    rcases kind with isDataOp | ⟨_, straight⟩
    · exact Step.isBranching_eq_false (by simp [isDataOp])
    · exact straight

/-- The chain ends at a branching step if there is one, and at most one action. -/
theorem PlanParts.isBranching_getLast? (steps : List Step) :
    ((ofSteps steps).chain.getLast?.any fun part => part.2.isBranching) = true ↔
      (∃ step ∈ steps, step.isBranching = true) ∧ (steps.filter (·.role = .action)).length ≤ 1 := by
  have single : (ofSteps steps).actions.drop 1 = [] ↔ (steps.filter (·.role = .action)).length ≤ 1 := by
    have numbered := congrArg List.length (map_filter_numbered steps (·.role = .action) id)
    rw [List.length_map, List.map_id] at numbered
    rw [List.drop_eq_nil_iff, ← numbered]
    rfl
  have branches : (ofSteps steps).branching ≠ [] ↔ ∃ step ∈ steps, step.isBranching = true := by
    have numbered := map_filter_numbered steps Step.isBranching id
    rw [List.map_id] at numbered
    rw [ne_eq, ← List.map_eq_nil_iff, ofSteps, numbered]
    simp
  have last : ∀ (parts : List (Nat × Step)) (part : Nat × Step),
      ((parts ++ [part]).getLast?.any fun part => part.2.isBranching) = part.2.isBranching := by
    intro parts part
    rw [List.getLast?_concat, Option.any_some]
  rw [← single, ← branches, chain]
  rcases List.eq_nil_or_concat ((ofSteps steps).actions.drop 1) with single | ⟨before, part, several⟩
  · rw [single, List.append_nil]
    rcases List.eq_nil_or_concat (ofSteps steps).branching with straight | ⟨before, part, several⟩
    · rw [straight, List.append_nil]
      refine iff_of_false ?_ (by simp)
      rw [Option.any_eq_true]
      rintro ⟨part, isLast, branching⟩
      rw [isBranching_straight (List.mem_of_getLast? isLast)] at branching
      cases branching
    · have member : part ∈ (ofSteps steps).branching := by simp [several]
      rw [several, List.concat_eq_append, ← List.append_assoc, last]
      simp [(mem_branching.mp member).2]
  · have member : part ∈ (ofSteps steps).actions := List.mem_of_mem_drop (by rw [several]; simp)
    have isAction := (mem_actions.mp member).2
    rw [several, List.concat_eq_append, ← List.append_assoc, last, Step.isBranching_eq_false (by simp [isAction])]
    simp

theorem Step.sum_span (steps : List Step) :
    ((steps.filter (·.role ≠ .note)).map span).sum =
      (steps.filter (·.role ≠ .note)).length + ((steps.filter isBranching).map (·.outputs - 1)).sum := by
  induction steps with
  | nil => rfl
  | cons step rest ih =>
    by_cases note : step.role = .note
    · have straight : step.isBranching = false := isBranching_eq_false (by simp [note])
      simpa [note, straight] using ih
    · rw [List.filter_cons_of_pos (by simpa using note), List.map_cons, List.sum_cons, List.length_cons, ih, span]
      cases branching : step.isBranching with
      | false =>
        rw [List.filter_cons_of_neg (by simp [branching])]
        simp only [Bool.false_eq_true, if_false]
        omega
      | true =>
        have several := (isBranching_iff.mp branching).2
        rw [List.filter_cons_of_pos branching, List.map_cons, List.sum_cons, if_pos rfl]
        omega

theorem Draft.span_order (steps : List Step) :
    ((PlanParts.ofSteps steps).order.map fun part => part.2.span).sum =
      (steps.filter (·.role ≠ .note)).length + ((steps.filter Step.isBranching).map (·.outputs - 1)).sum := by
  rw [((PlanParts.order_perm steps).map fun part => part.2.span).sum_eq, ← Step.sum_span,
    ← PlanParts.map_filter_numbered steps (·.role ≠ .note) Step.span]

/-- How many nodes a drawing has. -/
theorem Draft.length_nodes_ofSteps (drawing : Drawing) (steps : List Step) :
    (ofSteps drawing steps).nodes.length =
      (steps.filter (·.role ≠ .note)).length + ((steps.filter Step.isBranching).map (·.outputs - 1)).sum +
        if (∃ step ∈ steps, step.isBranching = true) ∧ (steps.filter (·.role = .action)).length ≤ 1 then 1 else 0 := by
  rw [nodes, List.length_map, length_ofSteps, span_order, Chain.endsBranching_ofSteps]
  simp only [PlanParts.isBranching_getLast?]

end Size

namespace Workflow

/-- A drawing has one node for each step of the plan but notes, which shows this step. All other nodes end branches:
each branching step has one for every output but the first, and there is one for the first output of the last branching
step unless a further action follows it. No identifier and no name is given twice. -/
theorem census_build {identifiers : Identifiers} (distinct : Function.Injective identifiers)
    (configuration : Configuration) (name : String) (steps : List Step) :
    let workflow := (build configuration identifiers name steps).1
    let mode := configuration.failures.errorOutputMode
    (∃ drawn ends, workflow.nodes.Perm (drawn ++ ends) ∧
        List.Forall₂ (Node.Shows mode) drawn (steps.filter (·.role ≠ .note)) ∧
          ∀ node ∈ ends, node.EndsBranch mode workflow.nodes workflow.connections ∧
            workflow.connections.outgoing node.id = []) ∧
      workflow.nodes.length =
        (steps.filter (·.role ≠ .note)).length + ((steps.filter Step.isBranching).map (·.outputs - 1)).sum +
          (if (∃ step ∈ steps, step.isBranching = true) ∧ (steps.filter (·.role = .action)).length ≤ 1 then 1 else 0) ∧
        (workflow.nodes.map (·.id)).Nodup ∧ (workflow.nodes.map (·.name)).Nodup := by
  intro workflow mode
  have laid : (Draft.ofSteps (drawing configuration identifiers) steps).Laid (drawing configuration identifiers) :=
    Draft.Laid.empty.moved (Draft.moved_ofSteps distinct steps)
  exact ⟨Draft.exists_perm_ofSteps distinct steps, Draft.length_nodes_ofSteps _ steps, laid.nodup_ids distinct,
    (Draft.grown_ofSteps _ steps).nodup_names⟩

theorem census_build_survey :
    ∃ configuration, Configuration.standard = .ok configuration ∧ Function.Injective (Identifiers.sequential "node") ∧
      let workflow := (build configuration (.sequential "node") "Survey" survey).1
      let mode := configuration.failures.errorOutputMode
      (∃ drawn ends, workflow.nodes.Perm (drawn ++ ends) ∧ List.Forall₂ (Node.Shows mode) drawn survey ∧
          ∀ node ∈ ends, node.EndsBranch mode workflow.nodes workflow.connections ∧
            workflow.connections.outgoing node.id = []) ∧
        workflow.nodes.length = 8 ∧ (workflow.nodes.map (·.id)).Nodup ∧ (workflow.nodes.map (·.name)).Nodup := by
  obtain ⟨configuration, accepted⟩ := Configuration.exists_standard
  have distinct := (Identifiers.proper_sequential "node").distinct
  obtain ⟨drawn, size, names⟩ := census_build distinct configuration "Survey" survey
  exact ⟨configuration, accepted, distinct, drawn, size, names⟩

end Workflow

end WorkflowSynthesis
