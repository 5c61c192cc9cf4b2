import WorkflowSynthesis.Proofs.Configuration.Standard
import WorkflowSynthesis.Proofs.Workflow.Course
import WorkflowSynthesis.Proofs.Workflow.Identifiers

/-!
The layout of drawings. On a grid that is accepted no two nodes share a place, and every edge leads exactly one
column to the right, so that no path returns to where it began.
-/

namespace WorkflowSynthesis

namespace Grid

theorem spacings_of_check {grid : Grid} (accepted : grid.check = .ok ()) :
    0 < grid.horizontalSpacing.toInt ∧ 0 < grid.verticalSpacing.toInt := by
  obtain ⟨wide, high⟩ := check_eq_ok.mp accepted
  exact ⟨Int64.lt_iff_toInt_lt.mp wide, Int64.lt_iff_toInt_lt.mp high⟩

/-- Cells of a grid that is accepted have places of their own. -/
theorem position_injective {grid : Grid} (accepted : grid.check = .ok ()) :
    Function.Injective fun cell : Nat × Nat => grid.position cell.1 cell.2 := by
  obtain ⟨wide, high⟩ := spacings_of_check accepted
  rintro ⟨stage, lane⟩ ⟨otherStage, otherLane⟩ same
  obtain ⟨column, row⟩ := Position.mk.inj same
  have columns := Int.eq_of_mul_eq_mul_right (Int.ne_of_gt wide) (Int.add_left_cancel column)
  have rows := Int.eq_of_mul_eq_mul_right (Int.ne_of_gt high) (Int.add_left_cancel row)
  exact Prod.ext (Int.ofNat_inj.mp columns) (Int.ofNat_inj.mp rows)

theorem x_position_succ (grid : Grid) (stage : Nat) (lane other : Int) :
    (grid.position (stage + 1) lane).x = (grid.position stage other).x + grid.horizontalSpacing.toInt := by
  simp only [position]
  push_cast
  rw [Int.add_mul, Int.one_mul, Int.add_assoc]

end Grid

namespace Draft

variable {drawing : Drawing} {draft : Draft}

namespace Laid

theorem nodup_positions (laid : Laid drawing draft) (accepted : drawing.grid.check = .ok ()) :
    (draft.nodes.map (·.position)).Nodup := by
  have positions : draft.nodes.map (·.position) =
      (draft.placements.map Placement.cell).map fun cell => drawing.grid.position cell.1 cell.2 := by
    rw [nodes, List.map_map, List.map_map]
    exact List.map_congr_left laid.positions
  rw [positions]
  exact laid.cells.map (Grid.position_injective accepted)

/-- The nodes that an edge joins stand in neighbouring columns. -/
theorem exists_ends (laid : Laid drawing draft) {edge : Edge} (member : edge ∈ draft.connections.edges) :
    ∃ source ∈ draft.nodes, ∃ target ∈ draft.nodes, source.id = edge.source ∧ target.id = edge.target ∧
      target.position.x = source.position.x + drawing.grid.horizontalSpacing.toInt := by
  obtain ⟨stage, before, after⟩ := laid.forward edge member
  obtain ⟨source, present, first⟩ := List.mem_map.mp before
  obtain ⟨target, alsoPresent, second⟩ := List.mem_map.mp after
  obtain ⟨sourceId, rfl⟩ := Prod.mk.inj first
  obtain ⟨targetId, next⟩ := Prod.mk.inj second
  refine ⟨_, List.mem_map_of_mem present, _, List.mem_map_of_mem alsoPresent, sourceId, targetId, ?_⟩
  rw [laid.positions source present, laid.positions target alsoPresent, next]
  exact Grid.x_position_succ _ _ _ _

theorem stage_unique (laid : Laid drawing draft) (distinct : Function.Injective drawing.identifiers) {id : String}
    {first second : Nat} (left : (id, first) ∈ draft.stages) (right : (id, second) ∈ draft.stages) : first = second := by
  have ids : draft.stages.map Prod.fst = draft.ids := by simp [stages, ids, nodes]
  have same := List.inj_on_of_nodup_map (ids ▸ laid.nodup_ids distinct) left right rfl
  exact congrArg Prod.snd same

/-- Along a path the stages ascend. -/
theorem ascending (laid : Laid drawing draft) (distinct : Function.Injective drawing.identifiers) {first last : String}
    (path : Relation.TransGen draft.connections.Leads first last) :
    ∃ stage later, (first, stage) ∈ draft.stages ∧ (last, later) ∈ draft.stages ∧ stage < later := by
  induction path with
  | single leads =>
    obtain ⟨edge, member, rfl, rfl⟩ := leads
    obtain ⟨stage, before, after⟩ := laid.forward edge member
    exact ⟨stage, stage + 1, before, after, Nat.lt_succ_self stage⟩
  | tail _ leads ih =>
    obtain ⟨edge, member, rfl, rfl⟩ := leads
    obtain ⟨stage, middle, start, reached, less⟩ := ih
    obtain ⟨here, before, after⟩ := laid.forward edge member
    rw [laid.stage_unique distinct reached before] at less
    exact ⟨stage, here + 1, start, after, Nat.lt_succ_of_lt less⟩

theorem acyclic (laid : Laid drawing draft) (distinct : Function.Injective drawing.identifiers) (id : String) :
    ¬Relation.TransGen draft.connections.Leads id id := by
  intro path
  obtain ⟨stage, later, first, last, less⟩ := laid.ascending distinct path
  exact Nat.ne_of_lt less (laid.stage_unique distinct first last)

end Laid

end Draft

namespace Workflow

/-- No two nodes of a drawing share a place, every edge leads one column to the right, and no path returns. -/
theorem layout_build {configuration : Configuration} (accepted : configuration.grid.check = .ok ())
    {identifiers : Identifiers} (distinct : Function.Injective identifiers) (name : String) (steps : List Step) :
    let workflow := (build configuration identifiers name steps).1
    (workflow.nodes.map (·.position)).Nodup ∧
      (∀ edge ∈ workflow.connections.edges, ∃ source target,
        workflow.node? edge.source = some source ∧ workflow.node? edge.target = some target ∧
          target.position.x = source.position.x + configuration.grid.horizontalSpacing.toInt) ∧
        ∀ id, ¬Relation.TransGen workflow.connections.Leads id id := by
  intro workflow
  have laid : (Draft.ofSteps (drawing configuration identifiers) steps).Laid (drawing configuration identifiers) :=
    Draft.Laid.empty.moved (Draft.moved_ofSteps distinct steps)
  refine ⟨laid.nodup_positions accepted, fun edge member => ?_, laid.acyclic distinct⟩
  obtain ⟨source, present, target, alsoPresent, sourceId, targetId, next⟩ := laid.exists_ends member
  have unique : (workflow.nodes.map (·.id)).Nodup := laid.nodup_ids distinct
  exact ⟨source, target, sourceId ▸ node?_of_mem unique present, targetId ▸ node?_of_mem unique alsoPresent, next⟩

/-- A plan with a step for every part of a drawing. Two steps have one name, one handler names itself, and one
guards a step that can tell its failures apart. -/
def survey : List Step := [
  { name := "Form", nodeType := "n8n-nodes-base.formTrigger", role := .trigger },
  { name := "Send", nodeType := "n8n-nodes-base.httpRequest", errorOutput := true, mayFail := true },
  { name := "Send", nodeType := "n8n-nodes-base.switch", role := .condition, outputs := 3 },
  { name := "Fallback", nodeType := "n8n-nodes-base.noOp", role := .errorHandler, guards := some 3 },
  { name := "Fallback", nodeType := "n8n-nodes-base.noOp", role := .errorHandler, guards := some 1 }]

theorem layout_build_survey :
    ∃ configuration, Configuration.standard = .ok configuration ∧ configuration.grid.check = .ok () ∧
      Function.Injective (Identifiers.sequential "node") ∧
      let workflow := (build configuration (.sequential "node") "Survey"
        (survey ++ [{ name := "Webhook", nodeType := "n8n-nodes-base.webhook", role := .trigger }])).1
      (workflow.nodes.map (·.position)).Nodup ∧
        (∀ edge ∈ workflow.connections.edges, ∃ source target,
          workflow.node? edge.source = some source ∧ workflow.node? edge.target = some target ∧
            target.position.x = source.position.x + configuration.grid.horizontalSpacing.toInt) ∧
          ∀ id, ¬Relation.TransGen workflow.connections.Leads id id := by
  obtain ⟨configuration, accepted⟩ := Configuration.exists_standard
  have grid := Configuration.grid_check_of_ofSettings accepted
  have distinct := (Identifiers.proper_sequential "node").distinct
  exact ⟨configuration, accepted, grid, distinct, layout_build grid distinct _ _⟩

end Workflow

end WorkflowSynthesis
