import WorkflowSynthesis.Proofs.Workflow.Free
import WorkflowSynthesis.Proofs.Workflow.Handling

/-!
The moves of a drawing. A move places a node on a free cell of the first stage, or hangs one behind the node of a
step, or sets an error mode. Every draft that moves lead to is laid: no two nodes share a cell, and every edge leads
to the next stage.
-/

namespace WorkflowSynthesis

/-- The cell of the grid that a node takes. -/
def Placement.cell (placement : Placement) : Nat × Nat := (placement.stage, placement.lane)

/-- The step of a node that hands its failures on. -/
def Step.failing (mode : String) (step : Step) : Step := { step with onError := some mode }

namespace Draft

variable {drawing : Drawing} {steps : List Step} {draft later : Draft}

theorem silent_fail (id mode : String) (placements : List Placement) :
    (changeFirst id (Step.failing mode) placements).map Placement.silent = placements.map Placement.silent :=
  silent_changeFirst id (some mode) placements

section Cells

theorem isOccupied_eq_false {stage lane : Nat} :
    draft.isOccupied stage lane = false ↔ (stage, lane) ∉ draft.placements.map Placement.cell := by
  simp only [isOccupied, List.any_eq_false, List.mem_map, Placement.cell, Prod.mk.injEq, Bool.and_eq_true, beq_iff_eq]
  grind

/-- The lane that is found lies below the main row and is free, and no lane between is. -/
theorem nextLane_spec (draft : Draft) (stage : Nat) :
    1 ≤ draft.nextLane stage ∧ draft.isOccupied stage (draft.nextLane stage) = false ∧
      ∀ lane, 1 ≤ lane → lane < draft.nextLane stage → draft.isOccupied stage lane = true := by
  obtain ⟨low, high, before, found⟩ :=
    Free.least_spec (fun lane => !draft.isOccupied stage lane) draft.placements.length 1
  have occupied : ∀ lane, 1 ≤ lane → lane < draft.nextLane stage → draft.isOccupied stage lane = true :=
    fun lane above below => by simpa using before lane above below
  refine ⟨low, ?_, occupied⟩
  rcases Nat.eq_or_lt_of_le high with last | inside
  · -- As many lanes as there are nodes are taken, so the nodes take no other lane.
    have distinct : Function.Injective fun lane : Nat => (stage, lane) := fun _ _ same => (Prod.mk.inj same).2
    obtain ⟨lane, above, below, free⟩ := Free.exists_not_mem (draft.placements.map Placement.cell) distinct 1
    rw [← isOccupied_eq_false] at free
    rw [List.length_map] at below
    rcases Nat.eq_or_lt_of_le below with rfl | less
    · rw [nextLane, last]
      exact free
    · have taken := occupied lane above (by rw [nextLane]; omega)
      simp [free] at taken
  · simpa [nextLane] using found inside

end Cells

/-- Whether there is a node of a step of the plan with an identifier. -/
def OfPlan (draft : Draft) (id : String) : Prop :=
  ∃ placement ∈ draft.placements, placement.node.id = id ∧ placement.source.isSome

/-- The draft with a node more behind one that is there. -/
def hang (draft : Draft) (drawing : Drawing) (parent : Placement) (output : Nat) (origin : Option Nat) (step : Step)
    (lane : Nat) : Draft :=
  (draft.place drawing origin step (parent.stage + 1) lane).connect parent.node.id output
    (drawing.identifiers draft.placements.length)

/-- What may be hung behind a node at one of its outputs: a step of the plan, or the end of a branch. -/
inductive Offered (steps : List Step) (parent : Placement) : Nat → Option Nat → Step → Prop
  | planned {output index : Nat} {step : Step} (place : steps[index]? = some step) :
      Offered steps parent output (some index) step
  | branchEnd {output : Nat} (branching : parent.node.step.isBranching = true)
      (inside : output < parent.node.step.outputs) :
      Offered steps parent output none (Step.branchEnd parent.node.name parent.node.step.outputs output)

/-- Moves that hang a node on a free cell behind the node of a step, or set the error mode of such a node if it has an
error output. -/
inductive Hangs (drawing : Drawing) (steps : List Step) : Draft → Draft → Prop
  | hang {draft : Draft} {parent : Placement} (member : parent ∈ draft.placements) (ofPlan : parent.source.isSome)
      {output : Nat} {origin : Option Nat} {step : Step} (offered : Offered steps parent output origin step)
      {lane : Nat} (free : draft.isOccupied (parent.stage + 1) lane = false) :
      Hangs drawing steps draft (draft.hang drawing parent output origin step lane)
  | fail {draft : Draft} {placement : Placement} (member : placement ∈ draft.placements)
      (ofPlan : placement.source.isSome) (telling : placement.node.step.errorOutput = true)
      (mode : drawing.errorOutputMode ≠ "") :
      Hangs drawing steps draft { draft with
        placements := changeFirst placement.node.id (Step.failing drawing.errorOutputMode) draft.placements }

/-- All moves: those that hang a node, and those that place one at the first stage, where a trigger may be led to
a node of the second. -/
inductive Moves (drawing : Drawing) (steps : List Step) : Draft → Draft → Prop
  | hangs {draft later : Draft} (hangs : Hangs drawing steps draft later) : Moves drawing steps draft later
  | start {draft : Draft} {index : Nat} {step : Step} (place : steps[index]? = some step) {lane : Nat}
      (free : draft.isOccupied 0 lane = false) :
      Moves drawing steps draft (draft.place drawing (some index) step 0 lane)
  | lead {draft : Draft} {index : Nat} {step : Step} (place : steps[index]? = some step) {lane : Nat}
      (free : draft.isOccupied 0 lane = false) {target : Placement} (member : target ∈ draft.placements)
      (second : target.stage = 1) :
      Moves drawing steps draft ((draft.place drawing (some index) step 0 lane).connect
        (drawing.identifiers draft.placements.length) 0 target.node.id)

/-- Runs of moves. -/
def Hung (drawing : Drawing) (steps : List Step) : Draft → Draft → Prop := Relation.ReflTransGen (Hangs drawing steps)

@[inherit_doc Hung]
def Moved (drawing : Drawing) (steps : List Step) : Draft → Draft → Prop := Relation.ReflTransGen (Moves drawing steps)

theorem Hung.moved (hung : Hung drawing steps draft later) : Moved drawing steps draft later :=
  Relation.ReflTransGen.mono (fun _ _ => .hangs) _ _ hung

/-- The stage of every node, by its identifier. -/
def stages (draft : Draft) : List (String × Nat) :=
  draft.placements.map fun placement => (placement.node.id, placement.stage)

theorem mem_stages {placement : Placement} (member : placement ∈ draft.placements) :
    (placement.node.id, placement.stage) ∈ draft.stages := List.mem_map_of_mem member

@[simp]
theorem stages_place (origin : Option Nat) (step : Step) (stage lane : Nat) :
    (draft.place drawing origin step stage lane).stages =
      draft.stages ++ [(drawing.identifiers draft.placements.length, stage)] := by
  simp [stages, Draft.place, nextNode]

/-- Identifiers are taken in order, nodes stand on cells of their own, and edges lead to the next stage. -/
structure Laid (drawing : Drawing) (draft : Draft) : Prop where
  numbered : draft.ids = (List.range draft.placements.length).map drawing.identifiers
  positions : ∀ placement ∈ draft.placements,
    placement.node.position = drawing.grid.position placement.stage placement.lane
  cells : (draft.placements.map Placement.cell).Nodup
  forward : ∀ edge ∈ draft.connections.edges,
    ∃ stage, (edge.source, stage) ∈ draft.stages ∧ (edge.target, stage + 1) ∈ draft.stages

namespace Laid

theorem empty : Laid drawing {} where
  numbered := rfl
  positions placement member := by simp at member
  cells := .nil
  forward edge member := by simp [Connections.edges, Connections.empty, Dictionary.empty] at member

theorem place (laid : Laid drawing draft) (origin : Option Nat) (step : Step) {stage lane : Nat}
    (free : draft.isOccupied stage lane = false) : Laid drawing (draft.place drawing origin step stage lane) where
  numbered := by simp [laid.numbered, List.range_succ]
  positions := by
    rw [Draft.place, List.forall_mem_append, List.forall_mem_singleton]
    exact ⟨laid.positions, rfl⟩
  cells := by
    rw [Draft.place, List.map_append, List.nodup_append]
    refine ⟨laid.cells, List.nodup_singleton _, fun cell taken other new same => ?_⟩
    rw [List.map_singleton, List.mem_singleton] at new
    subst same new
    exact isOccupied_eq_false.mp free taken
  forward edge member := by
    obtain ⟨stage, source, target⟩ := laid.forward edge member
    rw [stages_place]
    exact ⟨stage, List.mem_append_left _ source, List.mem_append_left _ target⟩

theorem connect (laid : Laid drawing draft) {source target : String} {stage : Nat}
    (present : (source, stage) ∈ draft.stages) (next : (target, stage + 1) ∈ draft.stages) (output : Nat) :
    Laid drawing (draft.connect source output target) where
  numbered := laid.numbered
  positions := laid.positions
  cells := laid.cells
  forward edge member := by
    rw [connections_connect, Connections.mem_edges_connect] at member
    rcases member with rfl | old
    · exact ⟨stage, present, next⟩
    · exact laid.forward edge old

/-- Error modes do not matter. -/
theorem of_silent (laid : Laid drawing draft) {placements : List Placement}
    (same : placements.map Placement.silent = draft.placements.map Placement.silent) :
    Laid drawing { draft with placements } where
  numbered := by
    have lengths := congrArg List.length same
    rw [List.length_map, List.length_map] at lengths
    rw [ids_of_silent same, laid.numbered, lengths]
  positions placement member := by
    obtain ⟨twin, held, equal⟩ := Placement.exists_silent same member
    have position := Placement.eq_of_silent equal (·.node.position) fun _ => rfl
    have cell :=
      Placement.eq_of_silent equal (fun placement => drawing.grid.position placement.stage placement.lane) fun _ => rfl
    rw [← position, ← cell]
    exact laid.positions twin held
  cells := by
    rw [map_eq_of_silent same Placement.cell fun _ => rfl]
    exact laid.cells
  forward := by
    have stages : Draft.stages { draft with placements } = draft.stages := map_eq_of_silent same _ fun _ => rfl
    rw [stages]
    exact laid.forward

theorem hang (laid : Laid drawing draft) {parent : Placement} (member : parent ∈ draft.placements) (output : Nat)
    (origin : Option Nat) (step : Step) {lane : Nat} (free : draft.isOccupied (parent.stage + 1) lane = false) :
    Laid drawing (draft.hang drawing parent output origin step lane) := by
  have before : (parent.node.id, parent.stage) ∈ (draft.place drawing origin step (parent.stage + 1) lane).stages := by
    rw [stages_place]
    exact List.mem_append_left _ (mem_stages member)
  exact (laid.place origin step free).connect before (by simp) output

theorem lead (laid : Laid drawing draft) {target : Placement} (member : target ∈ draft.placements)
    (second : target.stage = 1) (origin : Option Nat) (step : Step) {lane : Nat}
    (free : draft.isOccupied 0 lane = false) :
    Laid drawing ((draft.place drawing origin step 0 lane).connect (drawing.identifiers draft.placements.length) 0
      target.node.id) := by
  have after : (target.node.id, 0 + 1) ∈ (draft.place drawing origin step 0 lane).stages := by
    rw [stages_place, Nat.zero_add, ← second]
    exact List.mem_append_left _ (mem_stages member)
  exact (laid.place origin step free).connect (by simp) after 0

theorem moves (laid : Laid drawing draft) (moves : Moves drawing steps draft later) : Laid drawing later := by
  cases moves with
  | hangs hangs =>
    cases hangs with
    | hang member _ _ free => exact laid.hang member _ _ _ free
    | fail => exact laid.of_silent (silent_fail _ _ _)
  | start _ free => exact laid.place _ _ free
  | lead _ free member second => exact laid.lead member second _ _ free

theorem moved (laid : Laid drawing draft) (moved : Moved drawing steps draft later) : Laid drawing later := by
  induction moved with
  | refl => exact laid
  | tail _ moves ih => exact ih.moves moves

theorem nodup_ids (laid : Laid drawing draft) (distinct : Function.Injective drawing.identifiers) :
    draft.ids.Nodup := by
  rw [laid.numbered]
  exact List.nodup_range.map distinct

/-- Identifiers tell placements apart. -/
theorem unique (laid : Laid drawing draft) (distinct : Function.Injective drawing.identifiers)
    {placement twin : Placement} (member : placement ∈ draft.placements) (other : twin ∈ draft.placements)
    (same : placement.node.id = twin.node.id) : placement = twin := by
  have nodup : (draft.placements.map fun placement => placement.node.id).Nodup := by
    simpa [Draft.ids, nodes, Function.comp_def] using laid.nodup_ids distinct
  exact List.inj_on_of_nodup_map nodup member other same

/-- A new identifier has not been used. -/
theorem fresh (laid : Laid drawing draft) (distinct : Function.Injective drawing.identifiers) :
    drawing.identifiers draft.placements.length ∉ draft.ids := by
  rw [laid.numbered, List.mem_map]
  rintro ⟨index, inside, same⟩
  rw [List.mem_range, distinct same] at inside
  exact Nat.lt_irrefl _ inside

theorem stageOf (laid : Laid drawing draft) (distinct : Function.Injective drawing.identifiers) {placement : Placement}
    (member : placement ∈ draft.placements) : draft.stageOf placement.node.id = placement.stage := by
  have known : (draft.placements.reverse.find? (·.node.id = placement.node.id)).isSome :=
    List.find?_isSome.mpr ⟨placement, List.mem_reverse.mpr member, by simp⟩
  obtain ⟨found, isFound⟩ := Option.isSome_iff_exists.mp known
  have same : found.node.id = placement.node.id := by simpa using List.find?_some isFound
  have present := List.mem_reverse.mp (List.mem_of_find?_eq_some isFound)
  rw [Draft.stageOf, isFound, laid.unique distinct present member same]
  rfl

end Laid

namespace Extends

theorem connect (draft : Draft) (source target : String) (output : Nat) :
    Extends draft (draft.connect source output target) :=
  ⟨List.prefix_refl _, fun _ member => Connections.mem_edges_connect.mpr (.inr member)⟩

theorem fail (draft : Draft) (id : String) (mode : String) :
    Extends draft { draft with placements := changeFirst id (Step.failing mode) draft.placements } :=
  ⟨by simp only [silent_fail, List.prefix_refl], fun _ member => member⟩

theorem of_moves (moves : Moves drawing steps draft later) : Extends draft later := by
  cases moves with
  | hangs hangs =>
    cases hangs with
    | hang => exact (place _ _ _ _ _).trans (connect _ _ _ _)
    | fail => exact fail _ _ _
  | start => exact place _ _ _ _ _
  | lead => exact (place _ _ _ _ _).trans (connect _ _ _ _)

theorem of_moved (moved : Moved drawing steps draft later) : Extends draft later := by
  induction moved with
  | refl => exact refl _
  | tail _ moves ih => exact ih.trans (of_moves moves)

theorem exists_placement (extends' : Extends draft later) {placement : Placement}
    (member : placement ∈ draft.placements) : ∃ twin ∈ later.placements, twin.silent = placement.silent :=
  List.mem_map.mp (extends'.placements.subset (List.mem_map_of_mem member))

theorem exists_source (extends' : Extends draft later) {index : Nat}
    (known : ∃ placement ∈ draft.placements, placement.source = some index) :
    ∃ placement ∈ later.placements, placement.source = some index := by
  obtain ⟨placement, member, source⟩ := known
  obtain ⟨twin, held, same⟩ := extends'.exists_placement member
  exact ⟨twin, held, (Placement.eq_of_silent same (·.source) fun _ => rfl).trans source⟩

end Extends

theorem OfPlan.extend {id : String} (ofPlan : OfPlan draft id) (extends' : Extends draft later) : OfPlan later id := by
  obtain ⟨placement, member, rfl, origin⟩ := ofPlan
  obtain ⟨twin, held, same⟩ := extends'.exists_placement member
  have source := Placement.eq_of_silent same (·.source) fun _ => rfl
  exact ⟨twin, held, Placement.eq_of_silent same (·.node.id) fun _ => rfl, source ▸ origin⟩

end Draft

end WorkflowSynthesis
