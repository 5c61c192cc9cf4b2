import Mathlib.Data.List.Induction
import Mathlib.Data.List.Nodup
import WorkflowSynthesis.Proofs.Workflow.Edges
import WorkflowSynthesis.Workflow.Draft

/-!
How drawings are wired. Identifiers are taken in order, an edge joins two nodes that are there, and
every node but a trigger has an edge into it. One lemma for each way in which a draft grows, and from
them the same for whole drawings that begin with a trigger.
-/

namespace WorkflowSynthesis

/-- Identifiers that do not repeat find their nodes. -/
theorem Workflow.node?_of_mem {workflow : Workflow} (distinct : (workflow.nodes.map (·.id)).Nodup) {node : Node}
    (member : node ∈ workflow.nodes) : workflow.node? node.id = some node := by
  have known : (workflow.node? node.id).isSome := by
    rw [Workflow.node?, List.find?_isSome]
    exact ⟨node, member, by simp⟩
  obtain ⟨found, isFound⟩ := Option.isSome_iff_exists.mp known
  have same : found.id = node.id := by simpa using List.find?_some isFound
  rw [isFound, List.inj_on_of_nodup_map distinct (List.mem_of_find?_eq_some isFound) member same]

namespace Draft

variable {drawing : Drawing} {draft : Draft}

def ids (draft : Draft) : List String := draft.nodes.map (·.id)

@[simp]
theorem nodes_place (origin : Option Nat) (step : Step) (stage lane : Nat) :
    (draft.place drawing origin step stage lane).nodes = draft.nodes ++ [draft.nextNode drawing step stage lane] := by
  simp [place, nodes]

@[simp]
theorem connections_place (origin : Option Nat) (step : Step) (stage lane : Nat) :
    (draft.place drawing origin step stage lane).connections = draft.connections := rfl

@[simp]
theorem length_place (origin : Option Nat) (step : Step) (stage lane : Nat) :
    (draft.place drawing origin step stage lane).placements.length = draft.placements.length + 1 := by
  simp [place]

@[simp]
theorem nodes_connect (source target : String) (output : Nat) :
    (draft.connect source output target).nodes = draft.nodes := rfl

@[simp]
theorem placements_connect (source target : String) (output : Nat) :
    (draft.connect source output target).placements = draft.placements := rfl

@[simp]
theorem connections_connect (source target : String) (output : Nat) :
    (draft.connect source output target).connections = draft.connections.connect source output target 0 := rfl

@[simp]
theorem ids_place (origin : Option Nat) (step : Step) (stage lane : Nat) :
    (draft.place drawing origin step stage lane).ids = draft.ids ++ [drawing.identifiers draft.placements.length] := by
  simp [ids, nextNode]

@[simp]
theorem ids_connect (source target : String) (output : Nat) :
    (draft.connect source output target).ids = draft.ids := rfl

/-- Identifiers are taken in order, edges join nodes that are there, and every node but a trigger is led
to by an edge. -/
structure Wired (drawing : Drawing) (draft : Draft) : Prop where
  numbered : draft.ids = (List.range draft.placements.length).map drawing.identifiers
  sources : ∀ source ∈ draft.connections.outputs.keys, source ∈ draft.ids
  targets : ∀ edge ∈ draft.connections.edges, edge.target ∈ draft.ids
  reached : ∀ node ∈ draft.nodes, node.role = .trigger ∨ ∃ edge ∈ draft.connections.edges, edge.target = node.id

namespace Wired

theorem empty : Wired drawing {} where
  numbered := rfl
  sources source member := by simp [Connections.empty, Dictionary.keys, Dictionary.empty] at member
  targets edge member := by simp [Connections.edges, Connections.empty, Dictionary.empty] at member
  reached node member := by simp [nodes] at member

theorem place_trigger (wired : Wired drawing draft) (origin : Option Nat) (step : Step) (stage lane : Nat)
    (isTrigger : step.role = .trigger) : Wired drawing (draft.place drawing origin step stage lane) where
  numbered := by simp [wired.numbered, List.range_succ]
  sources source member := by simp [wired.sources source member]
  targets edge member := by simp [wired.targets edge member]
  reached node member := by
    rw [nodes_place, List.mem_append, List.mem_singleton] at member
    rcases member with old | rfl
    · exact wired.reached node old
    · exact .inl isTrigger

theorem connect (wired : Wired drawing draft) {source target : String} (output : Nat)
    (sourceKnown : source ∈ draft.ids) (targetKnown : target ∈ draft.ids) :
    Wired drawing (draft.connect source output target) where
  numbered := wired.numbered
  sources other member := by
    rw [connections_connect, Connections.mem_sources_connect] at member
    rcases member with rfl | old
    · exact sourceKnown
    · exact wired.sources other old
  targets edge member := by
    rw [connections_connect, Connections.mem_edges_connect] at member
    rcases member with rfl | old
    · exact targetKnown
    · exact wired.targets edge old
  reached node member := by
    refine (wired.reached node member).imp_right ?_
    rintro ⟨edge, old, leads⟩
    exact ⟨edge, Connections.mem_edges_connect.mpr (.inr old), leads⟩

/-- A new node that an edge leads to from a node that was there. -/
theorem place_connect (wired : Wired drawing draft) {source : String} (origin : Option Nat) (step : Step)
    (stage lane output : Nat) (known : source ∈ draft.ids) :
    Wired drawing ((draft.place drawing origin step stage lane).connect source output
      (drawing.identifiers draft.placements.length)) where
  numbered := by simp [wired.numbered, List.range_succ]
  sources other member := by
    rw [connections_connect, connections_place, Connections.mem_sources_connect] at member
    rw [ids_connect, ids_place]
    rcases member with rfl | old
    · exact List.mem_append_left _ known
    · exact List.mem_append_left _ (wired.sources other old)
  targets edge member := by
    rw [connections_connect, connections_place, Connections.mem_edges_connect] at member
    rw [ids_connect, ids_place]
    rcases member with rfl | old
    · simp
    · exact List.mem_append_left _ (wired.targets edge old)
  reached node member := by
    rw [nodes_connect, nodes_place, List.mem_append, List.mem_singleton] at member
    rw [connections_connect, connections_place]
    rcases member with old | rfl
    · refine (wired.reached node old).imp_right ?_
      rintro ⟨edge, before, leads⟩
      exact ⟨edge, Connections.mem_edges_connect.mpr (.inr before), leads⟩
    · exact .inr ⟨_, Connections.mem_edges_connect.mpr (.inl rfl), rfl⟩

/-- Identifiers and roles are all that wiring asks of the nodes. -/
theorem of_same_nodes {other : Draft} (wired : Wired drawing draft)
    (connections : other.connections = draft.connections)
    (nodes : other.nodes.map (fun node => (node.id, node.role)) = draft.nodes.map fun node => (node.id, node.role)) :
    Wired drawing other := by
  have ids : other.ids = draft.ids := by
    have first := congrArg (List.map Prod.fst) nodes
    simpa [Draft.ids, Function.comp_def] using first
  have length : other.placements.length = draft.placements.length := by
    have lengths := congrArg List.length ids
    simpa [Draft.ids, Draft.nodes] using lengths
  constructor
  · rw [ids, length, wired.numbered]
  · rw [connections, ids]
    exact wired.sources
  · rw [connections, ids]
    exact wired.targets
  · intro node member
    have listed : (node.id, node.role) ∈ draft.nodes.map fun node => (node.id, node.role) :=
      nodes ▸ List.mem_map_of_mem member
    obtain ⟨twin, old, same⟩ := List.mem_map.mp listed
    obtain ⟨sameId, sameRole⟩ := Prod.mk.inj same
    rw [connections, ← sameId, ← sameRole]
    exact wired.reached twin old

theorem nodup_ids (wired : Wired drawing draft) (distinct : Function.Injective drawing.identifiers) :
    draft.ids.Nodup := by
  rw [wired.numbered]
  exact List.nodup_range.map distinct

theorem exists_identifier (wired : Wired drawing draft) {id : String} (member : id ∈ draft.ids) :
    ∃ index, drawing.identifiers index = id := by
  rw [wired.numbered, List.mem_map] at member
  obtain ⟨index, _, same⟩ := member
  exact ⟨index, same⟩

end Wired

@[simp]
theorem ids_addBranchEnd (node : Node) (output lane : Nat) :
    (draft.addBranchEnd drawing node output lane).ids =
      draft.ids ++ [drawing.identifiers draft.placements.length] := by
  simp [addBranchEnd]

theorem Wired.addBranchEnd (wired : Wired drawing draft) (node : Node) (output lane : Nat)
    (known : node.id ∈ draft.ids) : Wired drawing (draft.addBranchEnd drawing node output lane) :=
  wired.place_connect none _ _ lane output known

/-- What each single branch end keeps, the ends of all branches keep. -/
theorem addBranchEnds_induction (kept : Draft → Prop) (node : Node) (stage : Nat) (start : kept draft)
    (step : ∀ draft output, output < node.step.outputs → kept draft →
      kept (draft.addBranchEnd drawing node output (draft.nextLane (stage + 1)))) :
    kept (draft.addBranchEnds drawing node stage) := by
  have inside : ∀ output ∈ List.range' 1 (node.step.outputs - 1), output < node.step.outputs := by
    simp only [List.mem_range'_1]
    omega
  exact List.foldlRecOn _ _ start fun draft held output listed => step draft output (inside output listed) held

theorem Wired.addBranchEnds (wired : Wired drawing draft) (node : Node) (stage : Nat) (known : node.id ∈ draft.ids) :
    Wired drawing (draft.addBranchEnds drawing node stage) := by
  refine (addBranchEnds_induction (fun other => Wired drawing other ∧ node.id ∈ other.ids)
    node stage ⟨wired, known⟩ ?_).1
  rintro other output _ ⟨otherWired, otherKnown⟩
  refine ⟨otherWired.addBranchEnd node output _ otherKnown, ?_⟩
  rw [ids_addBranchEnd]
  exact List.mem_append_left _ otherKnown

theorem subset_ids_addBranchEnds (node : Node) (stage : Nat) :
    draft.ids ⊆ (draft.addBranchEnds drawing node stage).ids := by
  refine addBranchEnds_induction (fun other => draft.ids ⊆ other.ids) node stage (List.Subset.refl _) ?_
  intro other output _ included
  rw [ids_addBranchEnd]
  exact List.subset_append_of_subset_left _ included

end Draft

namespace Chain

variable {drawing : Drawing} {chain : Chain}

/-- The draft of the chain is wired, and the chain ends and goes on at nodes that are there. -/
structure Wired (drawing : Drawing) (chain : Chain) : Prop where
  draft : chain.draft.Wired drawing
  tail : ∀ node ∈ chain.tail, node.id ∈ chain.draft.ids
  second : ∀ node ∈ chain.second, node.id ∈ chain.draft.ids

/-- Places the next node of the chain and leads the last one to it. -/
def append (drawing : Drawing) (chain : Chain) (part : (Nat × Step) × Nat) : Draft :=
  let draft := chain.draft.place drawing (some part.1.1) part.1.2 part.2 0
  match chain.tail with
  | some previous => draft.connect previous.id 0 (drawing.identifiers chain.draft.placements.length)
  | none => draft

/-- The node that the chain is continued by. -/
def nextNode (drawing : Drawing) (chain : Chain) (part : (Nat × Step) × Nat) : Node :=
  chain.draft.nextNode drawing part.1.2 part.2 0

theorem extend_eq (part : (Nat × Step) × Nat) :
    extend drawing chain part = {
      draft := if part.1.2.isBranching then
          (append drawing chain part).addBranchEnds drawing (nextNode drawing chain part) part.2
        else append drawing chain part
      tail := some (nextNode drawing chain part)
      second := if part.2 = 1 then some (nextNode drawing chain part) else chain.second } := by
  obtain ⟨⟨index, step⟩, stage⟩ := part
  rfl

/-- A chain is drawn step by step, each at the stage that has the number of those before. -/
theorem ofSteps_concat (parts : List (Nat × Step)) (part : Nat × Step) :
    ofSteps drawing (parts ++ [part]) = extend drawing (ofSteps drawing parts) (part, parts.length) := by
  simp [ofSteps, List.zipIdx_append]

@[simp]
theorem tail_extend (part : (Nat × Step) × Nat) :
    (extend drawing chain part).tail = some (nextNode drawing chain part) := by
  rw [extend_eq]

theorem isSome_tail_ofSteps {parts : List (Nat × Step)} (nonempty : parts ≠ []) :
    (ofSteps drawing parts).tail.isSome := by
  obtain ⟨before, last, rfl⟩ := (List.eq_nil_or_concat parts).resolve_left nonempty
  rw [List.concat_eq_append, ofSteps_concat, tail_extend]
  rfl

@[simp]
theorem ids_append (part : (Nat × Step) × Nat) :
    (append drawing chain part).ids = chain.draft.ids ++ [drawing.identifiers chain.draft.placements.length] := by
  unfold append
  split <;> simp

theorem subset_ids_extend (part : (Nat × Step) × Nat) :
    (append drawing chain part).ids ⊆ (extend drawing chain part).draft.ids := by
  rw [extend_eq]
  dsimp only
  split
  · exact Draft.subset_ids_addBranchEnds _ _
  · exact List.Subset.refl _

theorem Wired.append (wired : Wired drawing chain) {part : (Nat × Step) × Nat}
    (ready : chain.tail.isSome ∨ part.1.2.role = .trigger) : (append drawing chain part).Wired drawing := by
  unfold Chain.append
  split
  · next previous last => exact wired.draft.place_connect _ _ _ _ _ (wired.tail previous last)
  · next unbegun =>
    have isTrigger : part.1.2.role = .trigger := by simpa [unbegun] using ready
    exact wired.draft.place_trigger _ _ _ _ isTrigger

theorem Wired.extend (wired : Wired drawing chain) {part : (Nat × Step) × Nat}
    (ready : chain.tail.isSome ∨ part.1.2.role = .trigger) : Wired drawing (extend drawing chain part) := by
  have new : (nextNode drawing chain part).id ∈ (Chain.append drawing chain part).ids := by
    simp [nextNode, Draft.nextNode]
  have old : chain.draft.ids ⊆ (Chain.append drawing chain part).ids := by simp
  have grown : (Chain.append drawing chain part).ids ⊆ (Chain.extend drawing chain part).draft.ids :=
    subset_ids_extend part
  constructor
  · rw [extend_eq]
    dsimp only
    split
    · exact (wired.append ready).addBranchEnds _ _ new
    · exact wired.append ready
  · intro node last
    rw [tail_extend, Option.mem_some_iff] at last
    exact last ▸ grown new
  · intro node found
    rw [extend_eq] at found
    dsimp only at found
    split at found
    · rw [Option.mem_some_iff] at found
      exact found ▸ grown new
    · exact grown (old (wired.second node found))

theorem Wired.empty : Wired drawing {} where
  draft := .empty
  tail _ found := by cases found
  second _ found := by cases found

/-- A chain that begins with a trigger is wired. -/
theorem wired_ofSteps {first : Nat × Step} {rest : List (Nat × Step)} (isTrigger : first.2.role = .trigger) :
    Wired drawing (ofSteps drawing (first :: rest)) := by
  induction rest using List.reverseRecOn with
  | nil =>
    have begun : Wired drawing (extend drawing {} (first, 0)) := Wired.empty.extend (.inr isTrigger)
    exact begun
  | append_singleton rest part ih =>
    rw [← List.cons_append, ofSteps_concat]
    exact ih.extend (.inl (isSome_tail_ofSteps (List.cons_ne_nil _ _)))

theorem Wired.closed (wired : Wired drawing chain) : (chain.closed drawing).Wired drawing := by
  unfold Chain.closed
  split
  · next node last =>
    split
    · exact wired.draft.addBranchEnd _ _ _ (wired.tail node last)
    · exact wired.draft
  · exact wired.draft

theorem subset_ids_closed : chain.draft.ids ⊆ (chain.closed drawing).ids := by
  unfold closed
  split
  · split
    · simp
    · exact List.Subset.refl _
  · exact List.Subset.refl _

end Chain

namespace Draft

variable {drawing : Drawing} {draft : Draft}

theorem Wired.addTrigger (wired : Wired drawing draft) {second : Option Node} {part : Nat × Step}
    (known : ∀ node ∈ second, node.id ∈ draft.ids) (isTrigger : part.2.role = .trigger) :
    Wired drawing (draft.addTrigger drawing second part) := by
  obtain ⟨index, step⟩ := part
  have placed := wired.place_trigger (some index) step 0 (draft.nextLane 0) isTrigger
  cases second with
  | none => exact placed
  | some target =>
    refine placed.connect 0 ?_ ?_
    · simp [Draft.nextNode]
    · rw [ids_place]
      exact List.mem_append_left _ (known target rfl)

@[simp]
theorem ids_addTrigger (second : Option Node) (part : Nat × Step) :
    (draft.addTrigger drawing second part).ids = draft.ids ++ [drawing.identifiers draft.placements.length] := by
  obtain ⟨index, step⟩ := part
  cases second <;> simp [addTrigger, nextNode]

theorem Wired.addTriggers {parts : List (Nat × Step)} {second : Option Node} (wired : Wired drawing draft)
    (known : ∀ node ∈ second, node.id ∈ draft.ids) (triggers : ∀ part ∈ parts, part.2.role = .trigger) :
    Wired drawing (parts.foldl (Draft.addTrigger drawing second) draft) ∧
      draft.ids ⊆ (parts.foldl (Draft.addTrigger drawing second) draft).ids := by
  refine List.foldlRecOn (motive := fun later => Wired drawing later ∧ draft.ids ⊆ later.ids) parts _
    ⟨wired, List.Subset.refl _⟩ ?_
  rintro later ⟨laterWired, included⟩ part listed
  refine ⟨laterWired.addTrigger (fun node found => included (known node found)) (triggers part listed), ?_⟩
  rw [ids_addTrigger]
  exact List.subset_append_of_subset_left _ included

end Draft

/-- A placement without what its node does about its own failures. -/
def Placement.silent (placement : Placement) : Placement :=
  { placement with node := { placement.node with step := { placement.node.step with onError := none } } }

theorem Placement.eq_of_silent {α : Type} {placement twin : Placement} (same : twin.silent = placement.silent)
    (view : Placement → α) (blind : ∀ placement, view placement.silent = view placement) :
    view twin = view placement := by
  rw [← blind, same, blind]

namespace Draft

variable {drawing : Drawing} {draft : Draft}

theorem silent_changeFirst (id : String) (mode : Option String) (placements : List Placement) :
    (changeFirst id (fun step => { step with onError := mode }) placements).map Placement.silent =
      placements.map Placement.silent := by
  induction placements with
  | nil => rfl
  | cons placement rest ih =>
    unfold changeFirst
    split
    · rfl
    · rw [List.map_cons, List.map_cons, ih]

/-- Routing failures adds one edge and changes at most an error mode. -/
theorem routeFailures_eq (guarded handler : String) :
    ∃ output placements, placements.map Placement.silent = draft.placements.map Placement.silent ∧
      draft.routeFailures drawing guarded handler = { draft with placements }.connect guarded output handler := by
  unfold routeFailures
  split
  · next node found =>
    split
    · exact ⟨node.step.outputs, _, silent_changeFirst _ _ _, rfl⟩
    · exact ⟨0, draft.placements, rfl, rfl⟩
  · exact ⟨0, draft.placements, rfl, rfl⟩

theorem map_eq_of_silent {α : Type} {placements others : List Placement}
    (same : placements.map Placement.silent = others.map Placement.silent) (view : Placement → α)
    (blind : ∀ placement, view placement.silent = view placement) : placements.map view = others.map view := by
  have views := congrArg (List.map view) same
  simpa only [List.map_map, Function.comp_def, blind] using views

theorem ids_of_silent {placements : List Placement}
    (same : placements.map Placement.silent = draft.placements.map Placement.silent) :
    Draft.ids { draft with placements } = draft.ids := by
  simpa only [ids, nodes, List.map_map, Function.comp_def] using map_eq_of_silent same (·.node.id) fun _ => rfl

@[simp]
theorem ids_routeFailures (guarded handler : String) : (draft.routeFailures drawing guarded handler).ids = draft.ids := by
  obtain ⟨output, placements, same, routed⟩ := draft.routeFailures_eq guarded handler
  rw [routed, ids_connect, ids_of_silent same]

theorem Wired.routeFailures {guarded handler : String}
    (wired : ∀ output, Wired drawing (draft.connect guarded output handler)) :
    Wired drawing (draft.routeFailures drawing guarded handler) := by
  obtain ⟨output, placements, same, routed⟩ := draft.routeFailures_eq guarded handler
  rw [routed]
  refine (wired output).of_same_nodes rfl ?_
  simpa only [nodes, List.map_map, Function.comp_def, placements_connect] using
    map_eq_of_silent same (fun placement => (placement.node.id, placement.node.role)) fun _ => rfl

theorem mem_ids_of_idOf? {index : Nat} {id : String} (found : draft.idOf? index = some id) : id ∈ draft.ids := by
  obtain ⟨placement, first, rfl⟩ := Option.map_eq_some_iff.mp found
  exact List.mem_map_of_mem (List.mem_map_of_mem (List.mem_of_find?_eq_some first))

/-- The node after which a handler is placed. -/
def guarded? (draft : Draft) (tail : Option Node) (step : Step) : Option String :=
  (step.guards.bind draft.idOf?).or (tail.map (·.id))

theorem mem_ids_of_guarded? {tail : Option Node} {step : Step} {id : String}
    (known : ∀ node ∈ tail, node.id ∈ draft.ids) (found : draft.guarded? tail step = some id) : id ∈ draft.ids := by
  rcases Option.or_eq_some_iff.mp found with named | ⟨_, last⟩
  · obtain ⟨index, _, placed⟩ := Option.bind_eq_some_iff.mp named
    exact mem_ids_of_idOf? placed
  · obtain ⟨node, isLast, rfl⟩ := Option.map_eq_some_iff.mp last
    exact known node isLast

theorem isSome_guarded? {tail : Option Node} (step : Step) (started : tail.isSome) :
    (draft.guarded? tail step).isSome := by
  simp [guarded?, started]

theorem addHandler_eq {tail : Option Node} {index : Nat} {step : Step} {guarded : String}
    (found : draft.guarded? tail step = some guarded) :
    draft.addHandler drawing tail (index, step) =
      (draft.place drawing (some index) step (draft.stageOf guarded + 1)
        (draft.nextLane (draft.stageOf guarded + 1))).routeFailures drawing guarded
          (drawing.identifiers draft.placements.length) := by
  unfold addHandler
  rw [guarded?] at found
  simp only [found]
  rfl

theorem addHandler_none {tail : Option Node} {index : Nat} {step : Step} (found : draft.guarded? tail step = none) :
    draft.addHandler drawing tail (index, step) = draft.place drawing (some index) step 0 (draft.nextLane 0) := by
  unfold addHandler
  rw [guarded?] at found
  simp only [found]

theorem Wired.addHandler (wired : Wired drawing draft) {tail : Option Node} (part : Nat × Step)
    (started : tail.isSome) (known : ∀ node ∈ tail, node.id ∈ draft.ids) :
    Wired drawing (draft.addHandler drawing tail part) ∧ draft.ids ⊆ (draft.addHandler drawing tail part).ids := by
  obtain ⟨index, step⟩ := part
  obtain ⟨guarded, found⟩ := Option.isSome_iff_exists.mp (draft.isSome_guarded? step started)
  rw [addHandler_eq found]
  constructor
  · exact .routeFailures fun output => wired.place_connect _ _ _ _ output (mem_ids_of_guarded? known found)
  · rw [ids_routeFailures, ids_place]
    exact List.subset_append_left _ _

theorem Wired.addHandlers (wired : Wired drawing draft) {tail : Option Node} (parts : List (Nat × Step))
    (started : tail.isSome) (known : ∀ node ∈ tail, node.id ∈ draft.ids) :
    Wired drawing (parts.foldl (Draft.addHandler drawing tail) draft) := by
  refine (List.foldlRecOn (motive := fun later => Wired drawing later ∧ draft.ids ⊆ later.ids) parts _
    ⟨wired, List.Subset.refl _⟩ ?_).1
  rintro later ⟨laterWired, included⟩ part _
  obtain ⟨next, grown⟩ := laterWired.addHandler part started fun node last => included (known node last)
  exact ⟨next, List.Subset.trans included grown⟩

end Draft

namespace PlanParts

/-- What is selected by the step stands at its place in the plan. -/
theorem mem_filter_numbered {steps : List Step} {accept : Step → Bool} {part : Nat × Step} :
    part ∈ ((steps.zipIdx.map fun (step, index) => (index, step)).filter fun part => accept part.2) ↔
      steps[part.1]? = some part.2 ∧ accept part.2 = true := by
  obtain ⟨index, step⟩ := part
  simp [List.mem_zipIdx_iff_getElem?]

theorem mem_triggers {steps : List Step} {part : Nat × Step} :
    part ∈ (ofSteps steps).triggers ↔ steps[part.1]? = some part.2 ∧ part.2.role = .trigger :=
  (@mem_filter_numbered steps (·.role = .trigger) part).trans (and_congr_right fun _ => decide_eq_true_iff)

theorem mem_actions {steps : List Step} {part : Nat × Step} :
    part ∈ (ofSteps steps).actions ↔ steps[part.1]? = some part.2 ∧ part.2.role = .action :=
  (@mem_filter_numbered steps (·.role = .action) part).trans (and_congr_right fun _ => decide_eq_true_iff)

theorem mem_branching {steps : List Step} {part : Nat × Step} :
    part ∈ (ofSteps steps).branching ↔ steps[part.1]? = some part.2 ∧ part.2.isBranching = true :=
  mem_filter_numbered

theorem mem_handlers {steps : List Step} {part : Nat × Step} :
    part ∈ (ofSteps steps).handlers ↔ steps[part.1]? = some part.2 ∧ part.2.role = .errorHandler :=
  (@mem_filter_numbered steps (·.role = .errorHandler) part).trans (and_congr_right fun _ => decide_eq_true_iff)

theorem chain_of_triggers {parts : PlanParts} {first : Nat × Step} {others : List (Nat × Step)}
    (begins : parts.triggers = first :: others) :
    parts.chain = first :: (parts.actions.take 1 ++ parts.inline ++ parts.branching ++ parts.actions.drop 1) := by
  simp [chain, begins]

end PlanParts

namespace Draft

variable {drawing : Drawing}

/-- The drawing of steps among which there is a trigger is wired. -/
theorem wired_ofSteps {steps : List Step} {trigger : Step} (member : trigger ∈ steps)
    (isTrigger : trigger.role = .trigger) : Wired drawing (ofSteps drawing steps) := by
  obtain ⟨index, place⟩ := List.mem_iff_getElem?.mp member
  cases begins : (PlanParts.ofSteps steps).triggers with
  | nil =>
    have listed : (index, trigger) ∈ (PlanParts.ofSteps steps).triggers :=
      PlanParts.mem_triggers.mpr ⟨place, isTrigger⟩
    simp [begins] at listed
  | cons first others =>
    have triggers : ∀ part ∈ first :: others, part.2.role = .trigger := fun part listed =>
      (PlanParts.mem_triggers.mp (begins ▸ listed)).2
    unfold ofSteps
    simp only [PlanParts.chain_of_triggers begins, begins, List.drop_one, List.tail_cons]
    generalize (PlanParts.ofSteps steps).actions.take 1 ++ _ ++ _ ++ _ = rest
    have wired : Chain.Wired drawing (Chain.ofSteps drawing (first :: rest)) :=
      Chain.wired_ofSteps (triggers first List.mem_cons_self)
    have started : (Chain.ofSteps drawing (first :: rest)).tail.isSome :=
      Chain.isSome_tail_ofSteps (List.cons_ne_nil _ _)
    generalize Chain.ofSteps drawing (first :: rest) = chain at wired started ⊢
    obtain ⟨withTriggers, included⟩ := wired.closed.addTriggers
      (fun node found => Chain.subset_ids_closed (wired.second node found))
      (fun part listed => triggers part (List.mem_cons_of_mem _ listed))
    exact withTriggers.addHandlers _ started fun node last =>
      included (Chain.subset_ids_closed (wired.tail node last))

end Draft

end WorkflowSynthesis
