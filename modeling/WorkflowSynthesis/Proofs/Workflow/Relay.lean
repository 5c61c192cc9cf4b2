import WorkflowSynthesis.Proofs.Workflow.Course

/-!
How failures are handed on. A handler hangs behind the node of the very step that it names, at the error output of that
node if it has one and there is an error mode, which the node then has, and else at the first output. Nothing that is
drawn later changes this.
-/

namespace WorkflowSynthesis

namespace Draft

variable {drawing : Drawing} {steps : List Step} {draft later : Draft}

section Change

variable {id : String} {change : Step → Step} {placements : List Placement} {placement : Placement}

theorem exists_mem_changeFirst (id : String) (change : Step → Step) (member : placement ∈ placements) :
    ∃ twin ∈ changeFirst id change placements, twin = placement ∨
      twin = { placement with node := { placement.node with step := change placement.node.step } } := by
  induction placements with
  | nil => cases member
  | cons first rest ih =>
    unfold changeFirst
    rcases List.mem_cons.mp member with rfl | later
    · split
      · exact ⟨_, List.mem_cons_self, .inr rfl⟩
      · exact ⟨_, List.mem_cons_self, .inl rfl⟩
    · split
      · exact ⟨placement, List.mem_cons_of_mem _ later, .inl rfl⟩
      · obtain ⟨twin, held, same⟩ := ih later
        exact ⟨twin, List.mem_cons_of_mem _ held, same⟩

theorem changed_mem_changeFirst (first : placements.find? (·.node.id = id) = some placement) :
    { placement with node := { placement.node with step := change placement.node.step } } ∈
      changeFirst id change placements := by
  induction placements with
  | nil => cases first
  | cons other rest ih =>
    unfold changeFirst
    split
    · next same =>
      rw [List.find?_cons_of_pos (by simpa using same), Option.some.injEq] at first
      rw [first]
      exact List.mem_cons_self
    · next different =>
      rw [List.find?_cons_of_neg (by simpa using different)] at first
      exact List.mem_cons_of_mem _ (ih first)

end Change

/-- Whether the node of one step of the plan hands its failures on to that of another one: at its error output and
under the error mode, if it has such an output and there is a mode, else at its first output. -/
def Relays (drawing : Drawing) (draft : Draft) (index place : Nat) : Prop :=
  ∃ guarded ∈ draft.placements, guarded.source = some index ∧
    ∃ handler ∈ draft.placements, handler.source = some place ∧
      ∃ output, { source := guarded.node.id, output, target := handler.node.id, input := 0 } ∈ draft.connections.edges ∧
        if guarded.node.step.errorOutput && drawing.errorOutputMode ≠ "" then
          output = guarded.node.step.outputs ∧ guarded.node.step.onError = some drawing.errorOutputMode
        else output = 0

/-- Whether an edge leads from a node to that of a step of the plan. -/
def LeadsTo (draft : Draft) (id : String) (place : Nat) : Prop :=
  ∃ handler ∈ draft.placements, handler.source = some place ∧
    ∃ output, { source := id, output, target := handler.node.id, input := 0 } ∈ draft.connections.edges

theorem LeadsTo.extend {id : String} {place : Nat} (leads : LeadsTo draft id place) (extends' : Extends draft later) :
    LeadsTo later id place := by
  obtain ⟨handler, listed, origin, output, edge⟩ := leads
  obtain ⟨twin, held, same⟩ := extends'.exists_placement listed
  refine ⟨twin, held, (Placement.eq_of_silent same (·.source) fun _ => rfl).trans origin, output, ?_⟩
  rw [Placement.eq_of_silent same (·.node.id) fun _ => rfl]
  exact extends'.edges _ edge

/-- A node stays as it is but for its error mode, which is never taken back. -/
theorem exists_twin (moves : Moves drawing steps draft later) {placement : Placement}
    (member : placement ∈ draft.placements) :
    ∃ twin ∈ later.placements, twin.silent = placement.silent ∧
      (placement.node.step.onError = some drawing.errorOutputMode →
        twin.node.step.onError = some drawing.errorOutputMode) := by
  cases moves with
  | hangs hangs =>
    cases hangs with
    | hang => exact ⟨placement, List.mem_append_left _ member, rfl, id⟩
    | fail =>
      obtain ⟨twin, held, same⟩ := exists_mem_changeFirst _ (Step.failing drawing.errorOutputMode) member
      refine ⟨twin, held, ?_⟩
      rcases same with rfl | rfl
      · exact ⟨rfl, id⟩
      · exact ⟨rfl, fun _ => rfl⟩
  | start => exact ⟨placement, List.mem_append_left _ member, rfl, id⟩
  | lead => exact ⟨placement, List.mem_append_left _ member, rfl, id⟩

namespace Relays

variable {index place : Nat}

theorem moves (relays : Relays drawing draft index place) (moves : Moves drawing steps draft later) :
    Relays drawing later index place := by
  obtain ⟨guarded, member, source, handler, listed, origin, output, edge, mode⟩ := relays
  obtain ⟨guardedTwin, held, same, told⟩ := exists_twin moves member
  obtain ⟨handlerTwin, handlerHeld, handlerSame, _⟩ := exists_twin moves listed
  have id := Placement.eq_of_silent same (·.node.id) fun _ => rfl
  have outputs := Placement.eq_of_silent same (·.node.step.outputs) fun _ => rfl
  have telling := Placement.eq_of_silent same (·.node.step.errorOutput) fun _ => rfl
  have handlerId := Placement.eq_of_silent handlerSame (·.node.id) fun _ => rfl
  refine ⟨guardedTwin, held, (Placement.eq_of_silent same (·.source) fun _ => rfl).trans source, handlerTwin, handlerHeld,
    (Placement.eq_of_silent handlerSame (·.source) fun _ => rfl).trans origin, output, ?_, ?_⟩
  · rw [id, handlerId]
    exact (Extends.of_moves moves).edges _ edge
  · rw [telling, outputs]
    split at mode
    · next set =>
      rw [if_pos set]
      exact ⟨mode.1, told mode.2⟩
    · next unset =>
      rw [if_neg unset]
      exact mode

theorem moved (relays : Relays drawing draft index place) (moved : Moved drawing steps draft later) :
    Relays drawing later index place := by
  induction moved with
  | refl => exact relays
  | tail _ moves ih => exact ih.moves moves

end Relays

section Handlers

variable (distinct : Function.Injective drawing.identifiers)
include distinct

theorem Laid.find?_placement (laid : Laid drawing draft) {placement : Placement} (member : placement ∈ draft.placements) :
    draft.placements.find? (·.node.id = placement.node.id) = some placement := by
  have known : (draft.placements.find? (·.node.id = placement.node.id)).isSome :=
    List.find?_isSome.mpr ⟨placement, member, by simp⟩
  obtain ⟨found, isFound⟩ := Option.isSome_iff_exists.mp known
  have same : found.node.id = placement.node.id := by simpa using List.find?_some isFound
  rw [isFound, laid.unique distinct (List.mem_of_find?_eq_some isFound) member same]

/-- A handler that guards a node is placed behind it. It is connected to the error output of that node, which gets the
error mode, or to the first output. -/
theorem addHandler_eq_placed (laid : Laid drawing draft) {tail : Option Node} {guarded : Placement} {place : Nat}
    {handler : Step} (member : guarded ∈ draft.placements)
    (found : draft.guarded? tail handler = some guarded.node.id) :
    let placed := draft.place drawing (some place) handler (guarded.stage + 1) (draft.nextLane (guarded.stage + 1))
    draft.addHandler drawing tail (place, handler) =
      if guarded.node.step.errorOutput && drawing.errorOutputMode ≠ "" then
        { placed with
          placements := changeFirst guarded.node.id (Step.failing drawing.errorOutputMode) placed.placements }.connect
            guarded.node.id guarded.node.step.outputs (drawing.identifiers draft.placements.length)
      else placed.connect guarded.node.id 0 (drawing.identifiers draft.placements.length) := by
  intro placed
  obtain ⟨_, free, _⟩ := draft.nextLane_spec (guarded.stage + 1)
  have present : guarded ∈ placed.placements := List.mem_append_left _ member
  have first := (laid.place (some place) handler free).find?_placement distinct present
  have firstNode : placed.nodes.find? (·.id = guarded.node.id) = some guarded.node := by
    rw [nodes, List.find?_map]
    exact congrArg (Option.map (·.node)) first
  rw [addHandler_eq found, laid.stageOf distinct member]
  change placed.routeFailures drawing guarded.node.id _ = _
  unfold routeFailures
  simp only [firstNode]
  rfl

/-- The node of a handler is connected behind the node that it guards: at the error output, once that node has the error
mode, or at the first output. -/
theorem addHandler_cases (laid : Laid drawing draft) {tail : Option Node} {guarded : Placement} (place : Nat)
    {handler : Step} (member : guarded ∈ draft.placements)
    (found : draft.guarded? tail handler = some guarded.node.id) :
    let placed := draft.place drawing (some place) handler (guarded.stage + 1) (draft.nextLane (guarded.stage + 1))
    let failing := { placed with
      placements := changeFirst guarded.node.id (Step.failing drawing.errorOutputMode) placed.placements }
    ∃ new : Placement, new.source = some place ∧ new.node.role = handler.role ∧
      if guarded.node.step.errorOutput && drawing.errorOutputMode ≠ "" then
        { guarded with node := { guarded.node with
            step := Step.failing drawing.errorOutputMode guarded.node.step } } ∈ failing.placements ∧
          new ∈ failing.placements ∧ draft.addHandler drawing tail (place, handler) =
            failing.connect guarded.node.id guarded.node.step.outputs new.node.id
      else
        guarded ∈ placed.placements ∧ new ∈ placed.placements ∧
          draft.addHandler drawing tail (place, handler) = placed.connect guarded.node.id 0 new.node.id := by
  intro placed failing
  obtain ⟨_, free, _⟩ := draft.nextLane_spec (guarded.stage + 1)
  have placedLaid : Laid drawing placed := laid.place (some place) handler free
  have present : guarded ∈ placed.placements := List.mem_append_left _ member
  obtain ⟨new, listed, source, role, id⟩ : ∃ new ∈ placed.placements, new.source = some place ∧
      new.node.role = handler.role ∧ new.node.id = drawing.identifiers draft.placements.length :=
    ⟨_, List.mem_append_right _ (List.mem_singleton_self _), rfl, rfl, rfl⟩
  rw [addHandler_eq_placed distinct laid member found]
  by_cases telling : guarded.node.step.errorOutput && drawing.errorOutputMode ≠ ""
  · simp only [if_pos telling]
    -- The mode is set on the guarded node alone, but in a list of all nodes: the handler stays, as the one or the other.
    obtain ⟨twin, held, same⟩ := exists_mem_changeFirst guarded.node.id (Step.failing drawing.errorOutputMode) listed
    have alike : twin.source = new.source ∧ twin.node.role = new.node.role ∧ twin.node.id = new.node.id := by
      rcases same with rfl | rfl <;> exact ⟨rfl, rfl, rfl⟩
    refine ⟨twin, alike.1.trans source, alike.2.1.trans role,
      changed_mem_changeFirst (placedLaid.find?_placement distinct present), held, ?_⟩
    rw [alike.2.2, id]
  · simp only [if_neg telling]
    refine ⟨new, source, role, present, listed, ?_⟩
    rw [id]

/-- A handler is handed the failures of the step that it names. -/
theorem relays_addHandler (laid : Laid drawing draft) {tail : Option Node} {index place : Nat} {handler : Step}
    (guards : handler.guards = some index) (known : ∃ placement ∈ draft.placements, placement.source = some index) :
    Relays drawing (draft.addHandler drawing tail (place, handler)) index place := by
  obtain ⟨guarded, first⟩ : ∃ guarded, draft.placements.find? (·.source = some index) = some guarded := by
    obtain ⟨placement, member, source⟩ := known
    exact Option.isSome_iff_exists.mp (List.find?_isSome.mpr ⟨placement, member, by simpa using source⟩)
  have member := List.mem_of_find?_eq_some first
  have source : guarded.source = some index := by simpa using List.find?_some first
  have found : draft.guarded? tail handler = some guarded.node.id := by simp [guarded?, guards, idOf?, first]
  obtain ⟨new, origin, _, drawn⟩ := addHandler_cases distinct laid place member found
  split at drawn
  · next telling =>
    obtain ⟨failing, listed, drawn⟩ := drawn
    rw [drawn]
    exact ⟨_, failing, source, new, listed, origin, guarded.node.step.outputs,
      Connections.mem_edges_connect.mpr (.inl rfl), (if_pos telling).mpr ⟨rfl, rfl⟩⟩
  · next plain =>
    obtain ⟨present, listed, drawn⟩ := drawn
    rw [drawn]
    exact ⟨guarded, present, source, new, listed, origin, 0, Connections.mem_edges_connect.mpr (.inl rfl),
      (if_neg plain).mpr rfl⟩

/-- What is known of the draft that one of the handlers is added to, and of the rest of the way. -/
theorem reached_addHandlers (laid : Laid drawing draft) {tail : Option Node} {before behind : List (Nat × Step)}
    {part : Nat × Step} (listed : ∀ other ∈ before ++ part :: behind, steps[other.1]? = some other.2)
    (ends : ∀ node ∈ tail, OfPlan draft node.id) :
    let reached := before.foldl (addHandler drawing tail) draft
    Laid drawing reached ∧ (∀ node ∈ tail, OfPlan reached node.id) ∧
      Moved drawing steps reached (reached.addHandler drawing tail part) ∧
        Moved drawing steps (reached.addHandler drawing tail part)
          ((before ++ part :: behind).foldl (addHandler drawing tail) draft) := by
  intro reached
  rw [List.forall_mem_append, List.forall_mem_cons] at listed
  obtain ⟨early, place, late⟩ := listed
  have begun : Moved drawing steps draft reached := moved_addHandlers distinct laid early ends
  have reachedLaid := laid.moved begun
  have reachedEnds : ∀ node ∈ tail, OfPlan reached node.id := fun node last => (ends node last).extend (.of_moved begun)
  have moved : Moved drawing steps reached (reached.addHandler drawing tail part) :=
    moved_addHandler distinct reachedLaid place reachedEnds
  rw [List.foldl_append, List.foldl_cons]
  exact ⟨reachedLaid, reachedEnds, moved, moved_addHandlers distinct (reachedLaid.moved moved) late fun node last =>
    (reachedEnds node last).extend (.of_moved moved)⟩

/-- A handler that names a step placed before the handler is handed the failures of that step. The handlers behind it
make moves. -/
theorem relays_addHandlers (laid : Laid drawing draft) {tail : Option Node} {before behind : List (Nat × Step)}
    {part : Nat × Step} (listed : ∀ other ∈ before ++ part :: behind, steps[other.1]? = some other.2)
    (ends : ∀ node ∈ tail, OfPlan draft node.id) {index : Nat} (guards : part.2.guards = some index)
    (known : ∃ placement ∈ (before.foldl (addHandler drawing tail) draft).placements, placement.source = some index) :
    Relays drawing ((before ++ part :: behind).foldl (addHandler drawing tail) draft) index part.1 := by
  obtain ⟨reachedLaid, _, _, behind⟩ := reached_addHandlers distinct laid listed ends
  exact (relays_addHandler distinct reachedLaid guards known).moved behind

/-- An edge leads from the guarded node to that of the handler. -/
theorem leadsTo_addHandler (laid : Laid drawing draft) {tail : Option Node} {guarded : Placement} (place : Nat)
    {handler : Step} (member : guarded ∈ draft.placements)
    (found : draft.guarded? tail handler = some guarded.node.id) :
    LeadsTo (draft.addHandler drawing tail (place, handler)) guarded.node.id place := by
  obtain ⟨new, origin, _, drawn⟩ := addHandler_cases distinct laid place member found
  split at drawn
  · obtain ⟨_, listed, drawn⟩ := drawn
    rw [drawn]
    exact ⟨new, listed, origin, guarded.node.step.outputs, Connections.mem_edges_connect.mpr (.inl rfl)⟩
  · obtain ⟨_, listed, drawn⟩ := drawn
    rw [drawn]
    exact ⟨new, listed, origin, 0, Connections.mem_edges_connect.mpr (.inl rfl)⟩

/-- A handler that names no step placed before the handler hangs behind the end of the chain. -/
theorem leadsTo_addHandlers (laid : Laid drawing draft) {last : Node} {before behind : List (Nat × Step)}
    {part : Nat × Step} (listed : ∀ other ∈ before ++ part :: behind, steps[other.1]? = some other.2)
    (ends : OfPlan draft last.id)
    (unnamed : part.2.guards.bind (before.foldl (addHandler drawing (some last)) draft).idOf? = none) :
    LeadsTo ((before ++ part :: behind).foldl (addHandler drawing (some last)) draft) last.id part.1 := by
  have known : ∀ node ∈ some last, OfPlan draft node.id := by simpa using ends
  obtain ⟨reachedLaid, reachedEnds, _, behind⟩ := reached_addHandlers distinct laid listed known
  obtain ⟨guarded, member, same, _⟩ := reachedEnds last rfl
  have found : (before.foldl (addHandler drawing (some last)) draft).guarded? (some last) part.2 =
      some guarded.node.id := by
    rw [guarded?, unnamed, same]
    rfl
  exact same ▸ (leadsTo_addHandler distinct reachedLaid part.1 member found).extend (.of_moved behind)

omit distinct in
/-- A planned handler has its turn among the others. -/
theorem exists_turn {place : Nat} {handler : Step} (planned : steps[place]? = some handler)
    (isHandler : handler.role = .errorHandler) :
    ∃ before behind, (PlanParts.ofSteps steps).handlers = before ++ (place, handler) :: behind ∧
      ∀ other ∈ before ++ (place, handler) :: behind, steps[other.1]? = some other.2 := by
  have member : (place, handler) ∈ (PlanParts.ofSteps steps).handlers := PlanParts.mem_handlers.mpr ⟨planned, isHandler⟩
  obtain ⟨before, behind, parts⟩ := List.append_of_mem member
  exact ⟨before, behind, parts, fun _ member => getElem?_handlers _ (parts ▸ member)⟩

/-- In every drawing a planned handler is handed the failures of the step that it names, unless that is a handler itself
or a note. -/
theorem relays_ofSteps {steps : List Step} {index place : Nat} {step handler : Step} (planned : steps[index]? = some step)
    (placed : step.role ≠ .note) (other : step.role ≠ .errorHandler) (handlerPlanned : steps[place]? = some handler)
    (isHandler : handler.role = .errorHandler) (guards : handler.guards = some index) :
    Relays drawing (ofSteps drawing steps) index place := by
  obtain ⟨first, last, parts, listed⟩ := exists_turn handlerPlanned isHandler
  obtain ⟨before, tail⟩ := moved_beforeHandlers distinct steps
  have laid := Laid.empty.moved before
  have moved : Moved drawing steps (beforeHandlers drawing steps) (first.foldl (addHandler drawing _) _) :=
    moved_addHandlers distinct laid (List.forall_mem_append.mp listed).1 tail
  rw [ofSteps_eq, parts]
  exact relays_addHandlers distinct laid listed tail guards
    ((Extends.of_moved moved).exists_source (exists_beforeHandlers drawing planned placed other))

end Handlers

end Draft

end WorkflowSynthesis
