import WorkflowSynthesis.Proofs.Plan.Handlers
import WorkflowSynthesis.Proofs.Workflow.Relay
import WorkflowSynthesis.Proofs.Workflow.Tree

/-!
The handlers of a drawing. Each one is led to by a single edge, from the node that it guards, and nothing but the
placing of a handler sets an error mode: that of the node behind which the handler is placed. A handler that names no
step with a node guards the end of the main chain.
-/

namespace WorkflowSynthesis

/-- Whether a step names one of the plan that is drawn. -/
def Step.NamesDrawn (steps : List Step) (handler : Step) (index : Nat) : Prop :=
  handler.guards = some index ∧ ∃ step, steps[index]? = some step ∧ step.role ≠ .note

theorem PlanParts.role_ne_errorHandler {steps : List Step} {part : Nat × Step}
    (earlier : part ∈ (ofSteps steps).chain ++ (ofSteps steps).triggers.drop 1) : part.2.role ≠ .errorHandler := by
  have selected : part ∈ (ofSteps steps).triggers ++ (ofSteps steps).actions ++ (ofSteps steps).inline ++
      (ofSteps steps).branching := by
    simp only [chain, List.mem_append] at earlier ⊢
    grind [List.mem_of_mem_take, List.mem_of_mem_drop]
  simp only [ofSteps, List.mem_append, List.mem_filter, Step.isBranching] at selected
  grind

theorem PlanParts.pairwise_handlers (steps : List Step) :
    (ofSteps steps).handlers.Pairwise fun earlier later => earlier.1 < later.1 := by
  have numbers : (steps.zipIdx.map Prod.snd).Pairwise (· < ·) := by
    rw [show steps.zipIdx.map Prod.snd = List.range' 0 steps.length from List.zipIdx_map_snd 0 steps]
    exact List.pairwise_lt_range'
  refine List.Pairwise.filter _ (List.pairwise_map.mpr ?_)
  exact List.pairwise_map.mp numbers

namespace Draft

variable {drawing : Drawing} {steps : List Step} {draft : Draft}

/-- Whether a node was placed for a step that handles failures. -/
def HandlesFailures (steps : List Step) (placement : Placement) : Prop :=
  ∃ place ∈ placement.source, ∃ handler, steps[place]? = some handler ∧ handler.role = .errorHandler

/-- Whether the failures of a node leave at its error output, under the error mode, and are handled behind it. -/
def Answered (drawing : Drawing) (steps : List Step) (draft : Draft) (placement : Placement) : Prop :=
  placement.node.step.errorOutput = true ∧ drawing.errorOutputMode ≠ "" ∧
    placement.node.step.onError = some drawing.errorOutputMode ∧
      ∃ handler ∈ draft.placements, HandlesFailures steps handler ∧
        { source := placement.node.id, output := placement.node.step.outputs, target := handler.node.id, input := 0 } ∈
          draft.connections.edges

/-- What is kept while handlers are placed: no two edges lead to a handler, and an error mode is set only where
failures are handled. -/
structure Attended (drawing : Drawing) (steps : List Step) (draft : Draft) : Prop where
  single : ∀ placement ∈ draft.placements, HandlesFailures steps placement →
    draft.connections.inboundCount placement.node.id ≤ 1
  answered : ∀ placement ∈ draft.placements, placement.node.step.onError = none ∨ draft.Answered drawing steps placement

namespace Attended

theorem place (attended : Attended drawing steps draft) {origin : Option Nat} {step : Step} {stage lane : Nat}
    (silent : step.onError = none)
    (unled : draft.connections.inboundCount (drawing.identifiers draft.placements.length) = 0) :
    Attended drawing steps (draft.place drawing origin step stage lane) where
  single := by
    rw [Draft.place, List.forall_mem_append, List.forall_mem_singleton]
    exact ⟨attended.single, fun _ => Nat.le_of_eq unled |>.trans (Nat.zero_le 1)⟩
  answered := by
    rw [Draft.place, List.forall_mem_append, List.forall_mem_singleton]
    refine ⟨fun placement member => (attended.answered placement member).imp_right ?_, .inl silent⟩
    rintro ⟨telling, mode, told, handler, listed, handles⟩
    exact ⟨telling, mode, told, handler, List.mem_append_left _ listed, handles⟩

theorem connect (attended : Attended drawing steps draft) (source : String) (output : Nat) {target : String}
    (unled : draft.connections.inboundCount target = 0) : Attended drawing steps (draft.connect source output target) where
  single placement member handles := by
    rw [connections_connect, Connections.inboundCount_connect]
    split
    · next same => rw [← same, unled]
    · exact attended.single placement member handles
  answered placement member := by
    refine (attended.answered placement member).imp_right ?_
    rintro ⟨telling, mode, told, handler, listed, handles, edge⟩
    exact ⟨telling, mode, told, handler, listed, handles, Connections.mem_edges_connect.mpr (.inr edge)⟩

/-- The mode of a node may be set once its failures are handled. -/
theorem fail (attended : Attended drawing steps draft) {guarded handler : Placement}
    (unique : ∀ placement ∈ draft.placements, placement.node.id = guarded.node.id → placement = guarded)
    (telling : guarded.node.step.errorOutput = true) (mode : drawing.errorOutputMode ≠ "")
    (listed : handler ∈ draft.placements) (handles : HandlesFailures steps handler)
    (edge : { source := guarded.node.id, output := guarded.node.step.outputs, target := handler.node.id, input := 0 } ∈
      draft.connections.edges) :
    Attended drawing steps { draft with
      placements := changeFirst guarded.node.id (Step.failing drawing.errorOutputMode) draft.placements } := by
  -- Whatever handles failures still does, under its identifier.
  have kept : ∀ handler ∈ draft.placements, HandlesFailures steps handler →
      ∃ twin ∈ changeFirst guarded.node.id (Step.failing drawing.errorOutputMode) draft.placements,
        HandlesFailures steps twin ∧ twin.node.id = handler.node.id := by
    intro handler listed handles
    obtain ⟨twin, held, same⟩ :=
      exists_mem_changeFirst guarded.node.id (Step.failing drawing.errorOutputMode) listed
    refine ⟨twin, held, ?_⟩
    rcases same with rfl | rfl <;> exact ⟨handles, rfl⟩
  constructor
  · intro placement member placed
    rcases mem_changeFirst member with old | ⟨old, held, _, rfl⟩
    · exact attended.single placement old placed
    · exact attended.single old held placed
  · intro placement member
    rcases mem_changeFirst member with old | ⟨old, held, same, rfl⟩
    · refine (attended.answered placement old).imp_right ?_
      rintro ⟨tells, set, told, other, otherListed, otherHandles, leads⟩
      obtain ⟨twin, twinHeld, twinHandles, id⟩ := kept other otherListed otherHandles
      exact ⟨tells, set, told, twin, twinHeld, twinHandles, id ▸ leads⟩
    · obtain rfl := unique old held same
      obtain ⟨twin, twinHeld, twinHandles, id⟩ := kept handler listed handles
      exact .inr ⟨telling, mode, rfl, twin, twinHeld, twinHandles, id ▸ edge⟩

end Attended

theorem exists_addHandlers (draft : Draft) {tail : Option Node} {parts : List (Nat × Step)} {part : Nat × Step}
    (member : part ∈ parts) :
    ∃ placement ∈ (parts.foldl (addHandler drawing tail) draft).placements, placement.source = some part.1 := by
  refine exists_of_planned (?_ : (part.1, part.2.core) ∈ _)
  rw [planned_foldl fun draft part => planned_addHandler _ part]
  exact List.mem_append_right _ (List.mem_map_of_mem member)

section Handlers

variable (distinct : Function.Injective drawing.identifiers)
include distinct

/-- Before handlers are placed, the error mode does not matter. -/
theorem onError_beforeHandlers (silent : ∀ step ∈ steps, step.onError = none) :
    ∀ placement ∈ (beforeHandlers drawing steps).placements, placement.node.step.onError = none := by
  have modeless : beforeHandlers { drawing with errorOutputMode := "" } steps = beforeHandlers drawing steps := rfl
  have traced : Traced { drawing with errorOutputMode := "" } steps (beforeHandlers drawing steps) := by
    rw [← modeless]
    exact .moved distinct (@moved_beforeHandlers { drawing with errorOutputMode := "" } distinct steps).1
  have unset : ∀ {node : Node} {step : Step}, node.Shows "" step → step.onError = none → node.step.onError = none := by
    intro node step shows silent
    rcases shows.onError with same | ⟨_, mode, _⟩
    · exact same.trans silent
    · exact absurd rfl mode
  intro placement member
  cases origin : placement.source with
  | some index =>
    obtain ⟨step, place, shows⟩ := traced.planned placement member index origin
    exact unset shows (silent step (List.mem_of_getElem? place))
  | none =>
    obtain ⟨_, _, _, _, _, shows, _⟩ := traced.ends placement member origin
    exact unset shows rfl

theorem attended_beforeHandlers (silent : ∀ step ∈ steps, step.onError = none) :
    Attended drawing steps (beforeHandlers drawing steps) where
  single := by
    rintro placement member ⟨place, source, handler, planned, isHandler⟩
    have listed : (place, placement.node.step.core) ∈ (beforeHandlers drawing steps).planned :=
      List.mem_filterMap.mpr ⟨placement, member, by simp [Placement.planned?, Option.mem_def.mp source]⟩
    rw [planned_beforeHandlers] at listed
    obtain ⟨part, earlier, same⟩ := List.mem_map.mp listed
    obtain rfl : part.1 = place := congrArg Prod.fst same
    have origin : steps[part.1]? = some part.2 := PlanParts.getElem?_of_mem_order (List.mem_append_left _ earlier)
    obtain rfl : part.2 = handler := Option.some.inj (origin.symm.trans planned)
    exact absurd isHandler (PlanParts.role_ne_errorHandler earlier)
  answered placement member := .inl (onError_beforeHandlers distinct silent placement member)

theorem Attended.addHandler (attended : Attended drawing steps draft) (laid : Laid drawing draft) {tail : Option Node}
    {part : Nat × Step} (planned : steps[part.1]? = some part.2) (isHandler : part.2.role = .errorHandler)
    (silent : part.2.onError = none) (ends : ∀ node ∈ tail, OfPlan draft node.id) :
    Attended drawing steps (draft.addHandler drawing tail part) := by
  obtain ⟨place, handler⟩ := part
  have unled := laid.inboundCount_fresh distinct
  cases found : draft.guarded? tail handler with
  | none =>
    rw [addHandler_none found]
    exact attended.place silent unled
  | some id =>
    obtain ⟨guarded, member, rfl, _⟩ := ofPlan_guarded? ends found
    rw [addHandler_eq_placed distinct laid member found]
    obtain ⟨_, free, _⟩ := draft.nextLane_spec (guarded.stage + 1)
    have placedLaid := laid.place (some place) handler free
    have placed : Attended drawing steps (draft.place drawing (some place) handler (guarded.stage + 1)
      (draft.nextLane (guarded.stage + 1))) := attended.place silent unled
    split
    · next telling =>
      rw [Bool.and_eq_true, decide_eq_true_eq] at telling
      exact (placed.connect guarded.node.id guarded.node.step.outputs unled).fail
        (fun placement listed same =>
          placedLaid.unique distinct listed (List.mem_append_left _ member) same) telling.1 telling.2
        (List.mem_append_right _ (List.mem_singleton_self _)) ⟨place, rfl, handler, planned, isHandler⟩
        (Connections.mem_edges_connect.mpr (.inl rfl))
    · exact placed.connect _ _ unled

theorem Attended.addHandlers (attended : Attended drawing steps draft) (laid : Laid drawing draft) {tail : Option Node}
    {parts : List (Nat × Step)} (silent : ∀ step ∈ steps, step.onError = none)
    (planned : ∀ part ∈ parts, steps[part.1]? = some part.2 ∧ part.2.role = .errorHandler)
    (ends : ∀ node ∈ tail, OfPlan draft node.id) :
    Attended drawing steps (parts.foldl (Draft.addHandler drawing tail) draft) := by
  refine addHandlers_induction distinct laid (fun part listed => (planned part listed).1) ends attended ?_
  intro draft part listed laid ends attended
  obtain ⟨place, isHandler⟩ := planned part listed
  exact attended.addHandler distinct laid place isHandler (silent part.2 (List.mem_of_getElem? place)) ends

theorem attended_ofSteps (silent : ∀ step ∈ steps, step.onError = none) :
    Attended drawing steps (ofSteps drawing steps) := by
  obtain ⟨before, tail⟩ := moved_beforeHandlers distinct steps
  rw [ofSteps_eq]
  exact (attended_beforeHandlers distinct silent).addHandlers distinct (Laid.empty.moved before) silent
    (fun _ => PlanParts.mem_handlers.mp) tail

/-- A planned handler is handed the failures of the step that it names also if that is a handler itself, planned
earlier. -/
theorem relays_ofSteps_earlier {index place : Nat} {step handler : Step} (planned : steps[index]? = some step)
    (placed : step.role ≠ .note) (handlerPlanned : steps[place]? = some handler) (isHandler : handler.role = .errorHandler)
    (guards : handler.guards = some index) (earlier : index < place) :
    Relays drawing (ofSteps drawing steps) index place := by
  by_cases other : step.role = .errorHandler
  · obtain ⟨first, last, parts, listed⟩ := exists_turn handlerPlanned isHandler
    have guardedGuard : (index, step) ∈ (PlanParts.ofSteps steps).handlers :=
      PlanParts.mem_handlers.mpr ⟨planned, other⟩
    have sorted := PlanParts.pairwise_handlers steps
    rw [parts, List.pairwise_append, List.pairwise_cons] at sorted
    -- Handlers are placed in the order of the plan.
    have guarded : (index, step) ∈ first := by
      refine (List.mem_append.mp (parts ▸ guardedGuard)).resolve_right fun later => ?_
      rcases List.mem_cons.mp later with same | later
      · exact Nat.lt_irrefl _ ((Prod.mk.inj same).1 ▸ earlier)
      · exact Nat.lt_asymm earlier (sorted.2.1.1 _ later)
    obtain ⟨before, tail⟩ := moved_beforeHandlers distinct steps
    rw [ofSteps_eq, parts]
    exact relays_addHandlers distinct (Laid.empty.moved before) listed tail guards (exists_addHandlers _ guarded)
  · exact relays_ofSteps distinct planned placed other handlerPlanned isHandler guards

/-- A planned handler that names no step with a node hangs behind the end of the chain. -/
theorem leadsTo_ofSteps {place : Nat} {handler : Step} {last : Node} (handlerPlanned : steps[place]? = some handler)
    (isHandler : handler.role = .errorHandler) (unnamed : ∀ index, ¬handler.NamesDrawn steps index)
    (ends : (Chain.ofSteps drawing (PlanParts.ofSteps steps).chain).tail = some last) :
    LeadsTo (ofSteps drawing steps) last.id place := by
  obtain ⟨first, behind, parts, listed⟩ := exists_turn handlerPlanned isHandler
  obtain ⟨before, tail⟩ := moved_beforeHandlers distinct steps
  have laid := Laid.empty.moved before
  have drawn := ofSteps_eq drawing steps
  rw [ends] at tail
  rw [ends, parts] at drawn
  obtain ⟨_, _, moved, rest⟩ := reached_addHandlers distinct laid listed tail
  rw [drawn]
  refine leadsTo_addHandlers distinct laid listed (tail last rfl) (Option.bind_eq_none_iff.mpr fun index guards => ?_)
  -- A node that were found for the step would stay, so the step would be one that is drawn.
  rw [idOf?, Option.map_eq_none_iff, List.find?_eq_none]
  intro placement present source
  obtain ⟨twin, held, twinSource⟩ :=
    (Extends.of_moved (moved.trans rest)).exists_source ⟨placement, present, by simpa using source⟩
  rw [← drawn] at held
  have planned : (index, twin.node.step.core) ∈ (ofSteps drawing steps).planned :=
    List.mem_filterMap.mpr ⟨twin, held, by simp [Placement.planned?, twinSource]⟩
  obtain ⟨step, place, placed, _⟩ := mem_planned_ofSteps.mp planned
  exact unnamed index ⟨guards, step, place, placed⟩

/-- The chain of a plan with a trigger ends at a node, which is that of the last step along the main chain. -/
theorem exists_chainEnd (started : ∃ trigger ∈ steps, trigger.role = .trigger) :
    ∃ node, (Chain.ofSteps drawing (PlanParts.ofSteps steps).chain).tail = some node ∧
      ∃ last, (Workflow.mainChain steps).getLast? = some last ∧
        ∃ placement ∈ (ofSteps drawing steps).placements, placement.source = some last ∧ placement.node.id = node.id := by
  have nonempty : (PlanParts.ofSteps steps).chain ≠ [] := by
    obtain ⟨trigger, member, isTrigger⟩ := started
    obtain ⟨index, place⟩ := List.mem_iff_getElem?.mp member
    have listed : (index, trigger) ∈ (PlanParts.ofSteps steps).triggers := PlanParts.mem_triggers.mpr ⟨place, isTrigger⟩
    obtain ⟨first, others, begins⟩ := List.exists_cons_of_ne_nil (List.ne_nil_of_mem listed)
    rw [PlanParts.chain_of_triggers begins]
    exact List.cons_ne_nil _ _
  obtain ⟨node, ends⟩ := Option.isSome_iff_exists.mp (@Chain.isSome_tail_ofSteps drawing _ nonempty)
  obtain ⟨part, last, placement, member, rfl, source⟩ := Chain.exists_tail distinct ends
  obtain ⟨twin, held, same⟩ := (Extends.of_moved (moved_afterChain distinct steps)).exists_placement member
  refine ⟨_, ends, part.1, ?_, twin, held, (Placement.eq_of_silent same (·.source) fun _ => rfl).trans source,
    Placement.eq_of_silent same (·.node.id) fun _ => rfl⟩
  rw [Workflow.mainChain_eq, List.getLast?_map, last, Option.map_some]

end Handlers

end Draft

theorem Connections.inbound_eq_singleton {connections : Connections} {edge : Edge}
    (single : connections.inboundCount edge.target ≤ 1) (member : edge ∈ connections.edges) :
    connections.edges.filter (·.target = edge.target) = [edge] := by
  have listed : edge ∈ connections.edges.filter (·.target = edge.target) :=
    List.mem_filter.mpr ⟨member, decide_eq_true rfl⟩
  have length := Nat.le_antisymm single (List.length_pos_of_mem listed)
  obtain ⟨only, same⟩ := List.length_eq_one_iff.mp length
  rw [same, List.mem_singleton] at listed
  rw [same, listed]

namespace Workflow

/-- Whether a node of the drawing of a plan was placed for the step at a place in that plan. -/
def BuiltFrom (configuration : Configuration) (identifiers : Identifiers) (steps : List Step) (index : Nat)
    (node : Node) : Prop :=
  ∃ placement ∈ (Draft.ofSteps (drawing configuration identifiers) steps).placements,
    placement.source = some index ∧ placement.node = node

/-- Whether a single edge leads to a node, from the given output of another one. -/
def SoleEdge (workflow : Workflow) (source : Node) (output : Nat) (target : Node) : Prop :=
  workflow.connections.edges.filter (·.target = target.id) =
    [{ source := source.id, output, target := target.id, input := 0 }]

section Build

variable {configuration : Configuration} {identifiers : Identifiers} {steps : List Step}

/-- A step has at most one node. -/
theorem BuiltFrom.unique {index : Nat} {node other : Node} (built : BuiltFrom configuration identifiers steps index node)
    (otherBuilt : BuiltFrom configuration identifiers steps index other) : other = node := by
  obtain ⟨placement, member, source, rfl⟩ := built
  obtain ⟨twin, held, otherSource, rfl⟩ := otherBuilt
  rw [Draft.eq_of_source member held source otherSource]

theorem BuiltFrom.iff {index : Nat} {node : Node} (built : BuiltFrom configuration identifiers steps index node)
    (other : Node) : BuiltFrom configuration identifiers steps index other ↔ other = node :=
  ⟨built.unique, fun same => same ▸ built⟩

variable (distinct : Function.Injective identifiers) (guarding : Plan.Guarding steps) (name : String)
include distinct guarding

/-- The one edge to the node of a planned handler comes from the node of the step that the handler names: from its error
output, under the error mode, if the step has such an output and there is a mode, and else from the first one. -/
theorem guards_build {index place : Nat} {step handler : Step} (planned : steps[index]? = some step)
    (placed : step.role ≠ .note) (handlerPlanned : steps[place]? = some handler) (guards : handler.guards = some index) :
    let workflow := (build configuration identifiers name steps).1
    let mode := configuration.failures.errorOutputMode
    ∃ guarded ∈ workflow.nodes, ∃ node ∈ workflow.nodes,
      BuiltFrom configuration identifiers steps index guarded ∧ guarded.Shows mode step ∧
        BuiltFrom configuration identifiers steps place node ∧ node.Shows mode handler ∧
          if step.errorOutput = true ∧ mode ≠ "" then
            workflow.SoleEdge guarded step.outputs node ∧ guarded.step.onError = some mode
          else workflow.SoleEdge guarded 0 node ∧ guarded.step.onError = none := by
  intro workflow mode
  obtain ⟨isHandler, earlier⟩ := guarding.behind handlerPlanned guards
  have traced : Draft.Traced (drawing configuration identifiers) steps
      (Draft.ofSteps (drawing configuration identifiers) steps) := Draft.traced_ofSteps distinct steps
  have attended : Draft.Attended (drawing configuration identifiers) steps
      (Draft.ofSteps (drawing configuration identifiers) steps) := Draft.attended_ofSteps distinct guarding.silent
  have relays : (Draft.ofSteps (drawing configuration identifiers) steps).Relays (drawing configuration identifiers)
      index place := Draft.relays_ofSteps_earlier distinct planned placed handlerPlanned isHandler guards earlier
  obtain ⟨guarded, member, source, node, listed, origin, output, edge, way⟩ := relays
  obtain ⟨_, guardedPlanned, shows⟩ := traced.planned guarded member index source
  obtain ⟨_, nodePlanned, nodeShows⟩ := traced.planned node listed place origin
  obtain rfl := Option.some.inj (planned.symm.trans guardedPlanned)
  obtain rfl := Option.some.inj (handlerPlanned.symm.trans nodePlanned)
  have single := attended.single node listed ⟨place, origin, _, handlerPlanned, isHandler⟩
  have sole : workflow.SoleEdge guarded.node output node.node := Connections.inbound_eq_singleton single edge
  have telling : guarded.node.step.errorOutput = step.errorOutput := by rw [shows.kept]
  have outputs : guarded.node.step.outputs = step.outputs := by rw [shows.kept]
  refine ⟨guarded.node, List.mem_map_of_mem member, node.node, List.mem_map_of_mem listed, ⟨guarded, member, source, rfl⟩,
    shows, ⟨node, listed, origin, rfl⟩, nodeShows, ?_⟩
  have leaves : if step.errorOutput && mode ≠ "" then output = step.outputs ∧ guarded.node.step.onError = some mode
      else output = 0 := by
    rw [← telling, ← outputs]
    exact way
  by_cases set : step.errorOutput = true ∧ mode ≠ ""
  · rw [if_pos (by simpa using set)] at leaves
    rw [if_pos set]
    exact ⟨leaves.1 ▸ sole, leaves.2⟩
  · rw [if_neg (by simpa using set)] at leaves
    rw [if_neg set]
    refine ⟨leaves ▸ sole, (attended.answered guarded member).resolve_right ?_⟩
    rintro ⟨tells, present, _⟩
    exact set ⟨telling ▸ tells, present⟩

/-- A node with an error mode has a handler behind its error output, which no other edge leads to. If the handler names a
step that is drawn, then this is the step of the node, and otherwise the main chain ends at the node. -/
theorem answered_build (started : ∃ trigger ∈ steps, trigger.role = .trigger) :
    let workflow := (build configuration identifiers name steps).1
    ∀ node ∈ workflow.nodes, node.step.onError ≠ none →
      ∃ place handler, steps[place]? = some handler ∧ handler.role = .errorHandler ∧
        (∃ target ∈ workflow.nodes, BuiltFrom configuration identifiers steps place target ∧
          workflow.SoleEdge node node.step.outputs target) ∧
        ((∃ index, handler.NamesDrawn steps index ∧ BuiltFrom configuration identifiers steps index node) ∨
          (∀ index, ¬handler.NamesDrawn steps index) ∧
            ∃ last, (mainChain steps).getLast? = some last ∧ BuiltFrom configuration identifiers steps last node) := by
  intro workflow node member failing
  obtain ⟨placement, listed, rfl⟩ := List.mem_map.mp member
  have laid : (Draft.ofSteps (drawing configuration identifiers) steps).Laid (drawing configuration identifiers) :=
    Draft.laid_ofSteps distinct steps
  have attended : Draft.Attended (drawing configuration identifiers) steps
      (Draft.ofSteps (drawing configuration identifiers) steps) := Draft.attended_ofSteps distinct guarding.silent
  obtain ⟨_, _, _, target, held, handles, edge⟩ := (attended.answered placement listed).resolve_left failing
  have single := attended.single target held handles
  have sole : workflow.SoleEdge placement.node placement.node.step.outputs target.node :=
    Connections.inbound_eq_singleton single edge
  obtain ⟨place, source, handler, planned, isHandler⟩ := handles
  refine ⟨place, handler, planned, isHandler,
    ⟨target.node, List.mem_map_of_mem held, ⟨target, held, source, rfl⟩, sole⟩, ?_⟩
  -- The handler has one edge, so whatever leads to it is the node.
  have only : ∀ guarded ∈ (Draft.ofSteps (drawing configuration identifiers) steps).placements,
      (Draft.ofSteps (drawing configuration identifiers) steps).LeadsTo guarded.node.id place → guarded = placement := by
    rintro guarded present ⟨twin, twinListed, twinSource, output, leads⟩
    obtain rfl : twin = target := Draft.eq_of_source twinListed held twinSource source
    have edge := List.mem_singleton.mp (sole ▸ List.mem_filter.mpr ⟨leads, decide_eq_true rfl⟩)
    exact laid.unique distinct present listed (congrArg Edge.source edge)
  by_cases named : ∃ index, handler.NamesDrawn steps index
  · obtain ⟨index, guards, step, origin, placed⟩ := named
    obtain ⟨_, earlier⟩ := guarding.behind planned guards
    have relays : (Draft.ofSteps (drawing configuration identifiers) steps).Relays (drawing configuration identifiers)
        index place := Draft.relays_ofSteps_earlier distinct origin placed planned isHandler guards earlier
    obtain ⟨guarded, present, guardedSource, twin, twinListed, twinSource, output, leads, _⟩ := relays
    obtain rfl := only guarded present ⟨twin, twinListed, twinSource, output, leads⟩
    exact .inl ⟨index, ⟨guards, step, origin, placed⟩, guarded, present, guardedSource, rfl⟩
  · have unnamed := not_exists.mp named
    obtain ⟨node, ends, last, isLast, guarded, present, guardedSource, same⟩ : ∃ node,
        (Chain.ofSteps (drawing configuration identifiers) (PlanParts.ofSteps steps).chain).tail = some node ∧ _ :=
      Draft.exists_chainEnd distinct started
    have leads : (Draft.ofSteps (drawing configuration identifiers) steps).LeadsTo guarded.node.id place := by
      rw [same]
      exact Draft.leadsTo_ofSteps distinct planned isHandler unnamed ends
    obtain rfl := only guarded present leads
    exact .inr ⟨unnamed, last, isLast, guarded, present, guardedSource, rfl⟩

end Build

/-- Under an accepted configuration that handles failures, exactly one handler is planned for each step that may fail,
unless that is a note, and in the drawing of the plan the only edge to this handler comes from the very node of that
step: from its error output and under the error mode, if the step has such an output and there is a mode, and else from
its first output and without one. An error mode is set only on nodes with a handler behind their error output. Such a
handler names the step of its node; or it names no step that is drawn, as those of the catalog do not, and its node is
the end of the main chain. -/
theorem failures_build {settings : Settings} {engine : PatternEngine} {configuration : Configuration}
    (accepted : Configuration.ofSettings settings engine = .ok configuration)
    (enabled : configuration.failures.enabled = true) (classification : Classification) (overrides : Overrides)
    (services : List String) (name : String) {identifiers : Identifiers} (distinct : Function.Injective identifiers) :
    let steps := (Plan.ofClassification configuration classification overrides services).steps
    let workflow := (build configuration identifiers name steps).1
    let mode := configuration.failures.errorOutputMode
    (∀ (index : Nat) (step : Step), steps[index]? = some step → step.mayFail = true → step.role ≠ .note →
      ∃ (place : Nat) (handler : Step), steps[place]? = some handler ∧ handler.role = .errorHandler ∧
        (∀ (other : Nat) (otherHandler : Step), steps[other]? = some otherHandler →
          (otherHandler.guards = some index ↔ other = place)) ∧
        ∃ guarded ∈ workflow.nodes, ∃ node ∈ workflow.nodes,
          (∀ other, BuiltFrom configuration identifiers steps index other ↔ other = guarded) ∧
          guarded.Shows mode step ∧ (∀ other, BuiltFrom configuration identifiers steps place other ↔ other = node) ∧
          node.Shows mode handler ∧
          if step.errorOutput = true ∧ mode ≠ "" then
            workflow.SoleEdge guarded step.outputs node ∧ guarded.step.onError = some mode
          else workflow.SoleEdge guarded 0 node ∧ guarded.step.onError = none) ∧
    ∀ node ∈ workflow.nodes, node.step.onError = none ∨
      ∃ (place : Nat) (handler : Step), steps[place]? = some handler ∧ handler.role = .errorHandler ∧
        (∃ target ∈ workflow.nodes, BuiltFrom configuration identifiers steps place target ∧
          workflow.SoleEdge node node.step.outputs target) ∧
        ((∃ index, handler.NamesDrawn steps index ∧ BuiltFrom configuration identifiers steps index node) ∨
          (∀ index, ¬handler.NamesDrawn steps index) ∧
            ∃ last, (mainChain steps).getLast? = some last ∧ BuiltFrom configuration identifiers steps last node) := by
  intro steps workflow mode
  have unguarded : ∀ step ∈ Plan.calledSteps configuration classification overrides services,
      step.guards = none ∧ step.onError = none := fun _ => Plan.unguarded_called
  have guarding : Plan.Guarding steps := Plan.guarding_append_handlers unguarded
  have checked := Configuration.checked_of_ofSettings accepted
  have known := checked.failurePattern
  refine ⟨fun index step planned prone placed => ?_, fun node member => ?_⟩
  · obtain ⟨place, handler, handlerPlanned, guards, only⟩ :=
      Plan.exists_only_guard unguarded enabled known planned prone
    obtain ⟨isHandler, _⟩ := guarding.behind handlerPlanned guards
    obtain ⟨guarded, member, node, listed, built, shows, handlerBuilt, handlerShows, leads⟩ :=
      guards_build distinct guarding name planned placed handlerPlanned guards
    exact ⟨place, handler, handlerPlanned, isHandler, only, guarded, member, node, listed, built.iff, shows,
      handlerBuilt.iff, handlerShows, leads⟩
  · have started := Plan.exists_trigger configuration classification overrides services checked.catalog
    exact or_iff_not_imp_left.mpr (answered_build distinct guarding name started node member)

/-- A description that calls a service. -/
def calling : Classification where
  trigger := .manual
  primaryAction := "call"
  actions := [{ verb := "call", service := some "http", serviceKey := some "http_request" }]
  triggerKeywords := []
  conditions := []
  dataOps := []
  schedule := none
  entities := {}

/-- Its second step may fail, and has an error output behind its other one. -/
theorem call_calling {configuration : Configuration} (accepted : Configuration.standard = .ok configuration) :
    ∃ step, (Plan.ofClassification configuration calling .empty []).steps[1]? = some step ∧ step.mayFail = true ∧
      step.role = .action ∧ step.errorOutput = true ∧ step.outputs = 1 := by
  have follows := Configuration.follows_of_ofSettings accepted
  have requests : Plan.requests configuration calling [] =
      [Plan.triggerRequest .manual, { key := "http_request", role := .action, intent := "call" }] := rfl
  have traits := Plan.map_calledSteps configuration calling .empty []
    (fun step => (step.mayFail, step.role, step.errorOutput, step.outputs)) fun _ _ _ => rfl
  rw [requests, follows.catalog_standard] at traits
  have second := congrArg (·[1]?) traits
  have told : ([Plan.triggerRequest .manual, { key := "http_request", role := .action, intent := "call" }].map
      fun request => ((Plan.stepOf .standard request).mayFail, (Plan.stepOf .standard request).role,
        (Plan.stepOf .standard request).errorOutput, (Plan.stepOf .standard request).outputs))[1]? =
      some (true, .action, true, 1) := by decide
  rw [told, List.getElem?_map] at second
  obtain ⟨step, planned, same⟩ := Option.map_eq_some_iff.mp second
  simp only [Prod.mk.injEq] at same
  refine ⟨step, ?_, same⟩
  rw [Plan.steps_ofClassification, List.getElem?_append_left (List.getElem?_eq_some_iff.mp planned).1]
  exact planned

/-- Failures of the call leave its node at the second output. -/
theorem failures_build_calling :
    ∃ configuration, Configuration.standard = .ok configuration ∧ configuration.failures.enabled = true ∧
      Function.Injective (Identifiers.sequential "node") ∧
        let steps := (Plan.ofClassification configuration calling .empty []).steps
        let workflow := (build configuration (.sequential "node") "Call" steps).1
        ∃ handler ∈ steps, handler.guards = some 1 ∧ ∃ guarded ∈ workflow.nodes, ∃ node ∈ workflow.nodes,
          BuiltFrom configuration (.sequential "node") steps 1 guarded ∧
            node.Shows "continueErrorOutput" handler ∧ workflow.SoleEdge guarded 1 node ∧
              guarded.step.onError = some "continueErrorOutput" := by
  obtain ⟨configuration, accepted⟩ := Configuration.exists_standard
  have follows := Configuration.follows_of_ofSettings accepted
  have enabled : configuration.failures.enabled = true := by rw [follows.failures]
  have mode : configuration.failures.errorOutputMode = "continueErrorOutput" := by rw [follows.failures]
  have distinct := (Identifiers.proper_sequential "node").distinct
  refine ⟨configuration, accepted, enabled, distinct, ?_⟩
  obtain ⟨step, planned, prone, acts, telling, outputs⟩ := call_calling accepted
  obtain ⟨place, handler, handlerPlanned, _, only, guarded, member, node, listed, built, _, _, shows, leads⟩ :=
    (failures_build accepted enabled calling .empty [] "Call" distinct).1 1 step planned prone (by rw [acts]; decide)
  rw [mode] at shows leads
  rw [if_pos ⟨telling, by decide⟩, outputs] at leads
  exact ⟨handler, List.mem_of_getElem? handlerPlanned, (only place handler handlerPlanned).mpr rfl, guarded, member, node,
    listed, (built guarded).mpr rfl, shows, leads⟩

end Workflow

end WorkflowSynthesis
