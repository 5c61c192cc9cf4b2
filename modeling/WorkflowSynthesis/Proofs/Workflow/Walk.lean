import Mathlib.Data.List.Chain
import WorkflowSynthesis.Proofs.Workflow.Failures
import WorkflowSynthesis.Proofs.Workflow.Outputs

/-!
Walking a drawing along first targets. The chain links each of its nodes to the next one at the first output before
anything else leaves there, and later edges are only added behind; so a walk from the first node meets the steps of the
chain in their order, and goes the same way past data operations that are left out.
-/

namespace WorkflowSynthesis

namespace Draft

variable {drawing : Drawing} {steps : List Step} {draft later : Draft}

/-- Whether the first target at the first output of a node is another one. -/
def Links (draft : Draft) (source target : String) : Prop :=
  (draft.connections.targets source 0).head?.map (·.node) = some target

theorem prefix_targets_connect (connections : Connections) (source target : String) (output : Nat) (input : UInt32)
    (other : String) (place : Nat) :
    connections.targets other place <+: (connections.connect source output target input).targets other place := by
  rw [Connections.targets_connect]
  split
  · exact List.prefix_append _ _
  · exact List.prefix_refl _

theorem prefix_targets_of_moves (moves : Moves drawing steps draft later) (source : String) (output : Nat) :
    draft.connections.targets source output <+: later.connections.targets source output := by
  cases moves with
  | hangs hangs =>
    cases hangs with
    | hang => exact prefix_targets_connect _ _ _ _ _ _ _
    | fail => exact List.prefix_refl _
  | start => exact List.prefix_refl _
  | lead => exact prefix_targets_connect _ _ _ _ _ _ _

/-- Later edges leave an output behind those that were there. -/
theorem prefix_targets_of_moved (moved : Moved drawing steps draft later) (source : String) (output : Nat) :
    draft.connections.targets source output <+: later.connections.targets source output := by
  induction moved with
  | refl => exact List.prefix_refl _
  | tail _ moves ih => exact ih.trans (prefix_targets_of_moves moves source output)

theorem Links.of_grown {source target : String} (links : draft.Links source target)
    (kept : draft.connections.targets source 0 <+: later.connections.targets source 0) : later.Links source target := by
  obtain ⟨first, begins, rfl⟩ := Option.map_eq_some_iff.mp links
  obtain ⟨added, same⟩ := kept
  rw [Links, ← same, List.head?_append, begins]
  rfl

end Draft

namespace Draft

variable {drawing : Drawing} {draft later : Draft}

theorem Extends.prefix_ids (extends' : Extends draft later) : draft.ids <+: later.ids := by
  have views := extends'.placements.map (·.node.id)
  rw [List.map_map, List.map_map] at views
  rw [ids, ids, nodes, nodes, List.map_map, List.map_map]
  exact views

/-- The ends of branches leave the first output of every node as it is. -/
theorem targets_addBranchEnds (node : Node) (stage : Nat) (source : String) :
    (draft.addBranchEnds drawing node stage).connections.targets source 0 = draft.connections.targets source 0 := by
  have behind : ∀ output ∈ List.range' 1 (node.step.outputs - 1), 0 ≠ output := by
    simp only [List.mem_range'_1]
    omega
  unfold addBranchEnds
  generalize List.range' 1 (node.step.outputs - 1) = outputs at behind ⊢
  induction outputs generalizing draft with
  | nil => rfl
  | cons output rest ih =>
    obtain ⟨first, others⟩ := List.forall_mem_cons.mp behind
    rw [List.foldl_cons, ih others, addBranchEnd, connections_connect, Connections.targets_connect,
      if_neg fun same => first same.2]
    rfl

theorem Laid.targets_fresh (laid : Laid drawing draft) (distinct : Function.Injective drawing.identifiers)
    (output : Nat) : draft.connections.targets (drawing.identifiers draft.placements.length) output = [] := by
  refine List.eq_nil_iff_forall_not_mem.mpr fun target member => ?_
  have leaves := Connections.fanOut_pos.mpr ⟨⟨_, output, target.node, target.index⟩,
    Connections.mem_edges.mpr ⟨target, member, rfl, rfl⟩, rfl, rfl⟩
  rw [laid.fanOut_fresh distinct] at leaves
  cases leaves

end Draft

namespace Chain

variable {drawing : Drawing} {chain : Chain} {stage : Nat} {row : List (Nat × String)}

/-- The nodes of a chain in their order, by the place of their step and their identifier: the first is the first of the
draft, each links to the next, and nothing leaves the first output of the last one yet. -/
structure Row (chain : Chain) (row : List (Nat × String)) : Prop where
  placed : ∀ entry ∈ row, ∃ placement ∈ chain.draft.placements,
    placement.source = some entry.1 ∧ placement.node.id = entry.2
  first : row.head?.map Prod.snd = chain.draft.ids.head?
  linked : row.IsChain fun entry next => chain.draft.Links entry.2 next.2
  last : row.getLast?.map Prod.snd = chain.tail.map (·.id)
  open' : ∀ node ∈ chain.tail, chain.draft.connections.targets node.id 0 = []

theorem Row.empty : Row {} [] where
  placed entry member := by cases member
  first := rfl
  linked := .nil
  last := rfl
  open' node member := by cases member

/-- The next node of a chain is linked to its end. -/
theorem targets_append (part : Nat × Step) (source : String) :
    (append drawing chain (part, stage)).connections.targets source 0 =
      if chain.tail.map (·.id) = some source then
        chain.draft.connections.targets source 0 ++
          [{ node := drawing.identifiers chain.draft.placements.length, index := 0 }]
      else chain.draft.connections.targets source 0 := by
  unfold append
  split
  · next previous ends =>
    rw [Draft.connections_connect, Connections.targets_connect, ends]
    simp only [Draft.connections_place, Option.map_some, Option.some.injEq, and_true, eq_comm]
  · next ends =>
    rw [ends]
    rfl

/-- At the first outputs an extension adds no more than that link. -/
theorem targets_extend (part : Nat × Step) (source : String) :
    (extend drawing chain (part, stage)).draft.connections.targets source 0 =
      (append drawing chain (part, stage)).connections.targets source 0 := by
  rw [extend_eq]
  dsimp only
  split
  · exact Draft.targets_addBranchEnds _ _ _
  · rfl

section Ends

variable (distinct : Function.Injective drawing.identifiers)
include distinct

/-- The node that continues a chain is linked to its end. -/
theorem Row.extend (rowed : Row chain row) (course : Course drawing stage chain) (part : Nat × Step) :
    Row (extend drawing chain (part, stage))
      (row ++ [(part.1, drawing.identifiers chain.draft.placements.length)]) := by
  have laid := course.laid_append part
  have below : Draft.Below drawing [] (append drawing chain (part, stage))
      (Chain.extend drawing chain (part, stage)).draft := below_extend distinct laid
  have grown := (Draft.Extends.of_moved below.hung.moved).prefix_ids
  rw [ids_append] at grown
  have ended : ∀ id, chain.tail.map (·.id) = some id → id ∈ chain.draft.ids := by
    intro id last
    obtain ⟨node, ends, rfl⟩ := Option.map_eq_some_iff.mp last
    obtain ⟨placement, member, rfl, _⟩ := course.tail node ends
    exact List.mem_map_of_mem (List.mem_map_of_mem member)
  constructor
  · rw [List.forall_mem_append, List.forall_mem_singleton]
    refine ⟨fun entry member => ?_, nextPlacement drawing chain (part, stage), below.included (by simp), rfl, rfl⟩
    obtain ⟨placement, listed, same⟩ := rowed.placed entry member
    exact ⟨placement, below.included (by simp [listed]), same⟩
  · obtain ⟨added, same⟩ := grown
    rw [← same, List.head?_append, List.head?_append, List.head?_append, ← rowed.first]
    cases row <;> rfl
  · refine (rowed.linked.imp fun entry next links => ?_).append (.singleton _) ?_
    · refine links.of_grown ?_
      rw [targets_extend, targets_append]
      split
      · exact List.prefix_append _ _
      · exact List.prefix_refl _
    · rintro entry last _ ⟨⟩
      have ends : chain.tail.map (·.id) = some entry.2 := by rw [← rowed.last, Option.mem_def.mp last, Option.map_some]
      obtain ⟨node, isLast, same⟩ := Option.map_eq_some_iff.mp ends
      rw [Draft.Links, targets_extend, targets_append, if_pos ends, ← same, rowed.open' node isLast]
      rfl
  · rw [List.getLast?_concat, tail_extend]
    rfl
  · intro node isLast
    rw [tail_extend, Option.mem_some_iff] at isLast
    have id : node.id = drawing.identifiers chain.draft.placements.length := isLast ▸ rfl
    rw [id, targets_extend, targets_append, if_neg fun last => course.laid.fresh distinct (ended _ last),
      course.laid.targets_fresh distinct]

theorem row_ofSteps (parts : List (Nat × Step)) :
    ∃ row, Row (ofSteps drawing parts) row ∧ row.map Prod.fst = parts.map Prod.fst := by
  induction parts using List.reverseRecOn with
  | nil => exact ⟨[], .empty, rfl⟩
  | append_singleton parts part ih =>
    obtain ⟨row, rowed, places⟩ := ih
    rw [ofSteps_concat]
    refine ⟨_, rowed.extend distinct (course_ofSteps distinct parts) part, ?_⟩
    rw [List.map_append, List.map_append, places]
    rfl

end Ends

section Later

variable {steps : List Step} {later : Draft} {row : List (Nat × String)} (rowed : Row chain row)
  (moved : Draft.Moved drawing steps chain.draft later)
include rowed moved

/-- Error modes may be set later, so nodes are told by their identifiers. -/
theorem Row.exists_placement {entry : Nat × String} (member : entry ∈ row) :
    ∃ placement ∈ later.placements, placement.source = some entry.1 ∧ placement.node.id = entry.2 := by
  obtain ⟨placement, listed, source, id⟩ := rowed.placed entry member
  obtain ⟨twin, held, alike⟩ := (Draft.Extends.of_moved moved).exists_placement listed
  exact ⟨twin, held, (Placement.eq_of_silent alike (·.source) fun _ => rfl).trans source,
    (Placement.eq_of_silent alike (·.node.id) fun _ => rfl).trans id⟩

theorem Row.head_later (nonempty : row ≠ []) : (row.map Prod.snd).head? = later.ids.head? := by
  obtain ⟨added, grown⟩ := (Draft.Extends.of_moved moved).prefix_ids
  obtain ⟨first, rest, rfl⟩ := List.exists_cons_of_ne_nil nonempty
  rw [List.head?_map, rowed.first, ← grown, List.head?_append, ← rowed.first]
  rfl

theorem Row.linked_later : (row.map Prod.snd).IsChain later.Links := by
  rw [List.isChain_map]
  exact rowed.linked.imp fun entry _ links => links.of_grown (Draft.prefix_targets_of_moved moved entry.2 0)

end Later

end Chain

/-- A step without the place that it guards. -/
def Step.unguarded (step : Step) : Step := { step with guards := none }

namespace Workflow

/-- The node that the first edge at the first output of a node leads to. -/
def next? (workflow : Workflow) (node : Node) : Option Node :=
  (workflow.connections.targets node.id 0).head?.bind fun target => workflow.node? target.node

/-- The node that is met after so many such edges, from the first node on. -/
def met? (workflow : Workflow) : Nat → Option Node
  | 0 => workflow.nodes.head?
  | count + 1 => (workflow.met? count).bind workflow.next?

/-- A walk meets nodes that are linked one to the next, from the first node on. -/
theorem met?_of_linked {workflow : Workflow} (unique : (workflow.nodes.map (·.id)).Nodup) {ids : List String}
    (known : ∀ id ∈ ids, id ∈ workflow.nodes.map (·.id)) (begins : ids.head? = (workflow.nodes.map (·.id)).head?)
    (linked : ids.IsChain fun id next => (workflow.connections.targets id 0).head?.map (·.node) = some next) {i : Nat}
    {id : String} (place : ids[i]? = some id) : workflow.met? i = workflow.node? id := by
  induction i generalizing id with
  | zero =>
    rw [← List.head?_eq_getElem?, begins, List.head?_map] at place
    obtain ⟨node, first, rfl⟩ := Option.map_eq_some_iff.mp place
    rw [met?, first, node?_of_mem unique (List.mem_of_mem_head? first)]
  | succ i ih =>
    obtain ⟨inside, rfl⟩ := List.getElem?_eq_some_iff.mp place
    obtain ⟨node, member, same⟩ := List.mem_map.mp (known _ (List.getElem_mem (Nat.lt_of_succ_lt inside)))
    obtain ⟨target, first, aimed⟩ := Option.map_eq_some_iff.mp (List.isChain_iff_getElem.mp linked i inside)
    rw [met?, ih (List.getElem?_eq_getElem (Nat.lt_of_succ_lt inside)), ← same, node?_of_mem unique member,
      Option.bind_some, next?, same, first, Option.bind_some, aimed]

/-- Whether a walk along first edges, from the first node on, meets the nodes of the steps at the given places. -/
def Visits (configuration : Configuration) (identifiers : Identifiers) (name : String) (steps : List Step)
    (places : List Nat) : Prop :=
  ∀ i index, places[i]? = some index → ∃ node,
    (build configuration identifiers name steps).1.met? i = some node ∧
      BuiltFrom configuration identifiers steps index node

section Build

variable {configuration : Configuration} {identifiers : Identifiers} {name : String} {steps : List Step}

theorem visits_mainChain (distinct : Function.Injective identifiers) :
    Visits configuration identifiers name steps (mainChain steps) := by
  intro i index place
  have moved : Draft.Moved (drawing configuration identifiers) steps _ _ := Draft.moved_afterChain distinct steps
  obtain ⟨row, rowed, same⟩ : ∃ row, Chain.Row (Chain.ofSteps (drawing configuration identifiers) _) row ∧ _ :=
    Chain.row_ofSteps distinct (PlanParts.ofSteps steps).chain
  have unique : ((build configuration identifiers name steps).1.nodes.map (·.id)).Nodup :=
    (Draft.laid_ofSteps distinct steps).nodup_ids distinct
  rw [mainChain_eq, ← same, List.getElem?_map] at place
  obtain ⟨entry, found, rfl⟩ := Option.map_eq_some_iff.mp place
  obtain ⟨placement, held, source, id⟩ := rowed.exists_placement moved (List.mem_of_getElem? found)
  refine ⟨placement.node, ?_, placement, held, source, rfl⟩
  have known : ∀ id ∈ row.map Prod.snd, id ∈ (build configuration identifiers name steps).1.nodes.map (·.id) := by
    rw [List.forall_mem_map]
    intro entry member
    obtain ⟨twin, listed, _, same⟩ := rowed.exists_placement moved member
    exact same ▸ List.mem_map_of_mem (List.mem_map_of_mem listed)
  have begins := rowed.head_later moved (List.ne_nil_of_mem (List.mem_of_getElem? found))
  have there : (row.map Prod.snd)[i]? = some entry.2 := by rw [List.getElem?_map, found, Option.map_some]
  rw [met?_of_linked unique known begins (rowed.linked_later moved) there, ← id,
    node?_of_mem unique (List.mem_map_of_mem held)]

end Build

section Splice

variable {steps rest : List Step} {removed : Nat → Bool}

/-- The steps at the places that are not removed, each with its place. -/
def survivors (removed : Nat → Bool) (steps : List Step) : List (Step × Nat) :=
  steps.zipIdx.filter fun part => !removed part.2

/-- What is accepted among the steps that are left is what was accepted and is left. -/
theorem places_rest (left : rest.map Step.unguarded = (survivors removed steps).map fun part => part.1.unguarded)
    {accept : Step → Bool} (blind : ∀ step, accept step.unguarded = accept step) :
    (places rest accept).map (((survivors removed steps).map Prod.snd)[·]?) =
      ((places steps accept).filter (!removed ·)).map some := by
  have flags : rest.map accept = (survivors removed steps).map fun part => accept part.1 := by
    have views := congrArg (List.map accept) left
    simpa only [List.map_map, Function.comp_def, blind] using views
  have numbered : ∀ {α : Type} (items : List α) (view : α → Bool),
      (items.zipIdx.filter fun part => view part.1).map Prod.snd =
        ((items.map view).zipIdx.filter Prod.fst).map Prod.snd := by
    intro α items view
    rw [List.zipIdx_map, List.filter_map, List.map_map]
    rfl
  have looked : ∀ part ∈ (survivors removed steps).zipIdx.filter fun part => accept part.1.1,
      ((survivors removed steps).map Prod.snd)[part.2]? = some part.1.2 := by
    intro part member
    rw [List.getElem?_map, List.mem_zipIdx_iff_getElem?.mp (List.mem_of_mem_filter member), Option.map_some]
  calc (places rest accept).map (((survivors removed steps).map Prod.snd)[·]?)
      = (((survivors removed steps).zipIdx.filter fun part => accept part.1.1).map Prod.snd).map
          (((survivors removed steps).map Prod.snd)[·]?) := by
        rw [places, numbered, flags, ← numbered]
    _ = ((survivors removed steps).zipIdx.filter fun part => accept part.1.1).map fun part => some part.1.2 := by
        rw [List.map_map]
        exact List.map_congr_left looked
    _ = (((survivors removed steps).zipIdx.map Prod.fst).filter fun part => accept part.1).map
          fun part => some part.2 := by
        rw [List.filter_map, List.map_map]
        rfl
    _ = ((places steps accept).filter (!removed ·)).map some := by
        rw [List.zipIdx_map_fst, survivors, places, List.filter_map, List.map_map, List.filter_filter,
          List.filter_filter]
        simp only [Bool.and_comm]
        rfl

/-- Without some data operations the main chain is that of all steps, with the places of these taken out. -/
theorem mainChain_rest
    (operations : ∀ index step, steps[index]? = some step → removed index = true → step.role = .dataOp)
    (left : rest.map Step.unguarded = (survivors removed steps).map fun part => part.1.unguarded) :
    (mainChain rest).map (((survivors removed steps).map Prod.snd)[·]?) =
      ((mainChain steps).filter (!removed ·)).map some := by
  have lasting : ∀ {accept : Step → Bool}, (∀ step, accept step = true → step.role ≠ .dataOp) →
      ∀ {part : List Nat}, part ⊆ places steps accept → part.filter (!removed ·) = part := by
    intro accept other part included
    refine List.filter_eq_self.mpr fun index member => ?_
    obtain ⟨⟨step, place⟩, listed, rfl⟩ := List.mem_map.mp (included member)
    obtain ⟨numbered, accepted⟩ := List.mem_filter.mp listed
    rw [Bool.not_eq_true', ← Bool.not_eq_true]
    exact fun gone => other step accepted (operations place step (List.mem_zipIdx_iff_getElem?.mp numbered) gone)
  have kept : ∀ {accept : Step → Bool}, (∀ step, accept step.unguarded = accept step) →
      (∀ step, accept step = true → step.role ≠ .dataOp) →
        (places rest accept).map (((survivors removed steps).map Prod.snd)[·]?) = (places steps accept).map some := by
    intro accept blind other
    rw [places_rest left blind, lasting other (List.Subset.refl _)]
  have triggers : ∀ step : Step, decide (step.role = .trigger) = true → step.role ≠ .dataOp := by simp +contextual
  have actions : ∀ step : Step, decide (step.role = .action) = true → step.role ≠ .dataOp := by simp +contextual
  have branching : ∀ step : Step, step.isBranching = true → step.role ≠ .dataOp := by
    simp +contextual [Step.isBranching]
  have inLine : (places rest fun step =>
      step.role = .dataOp || (step.role = .condition && !step.isBranching)).map _ = _ := places_rest left fun _ => rfl
  rw [mainChain, mainChain]
  simp only [List.map_append, List.map_take, List.map_drop, List.filter_append, inLine, kept (fun _ => rfl) triggers,
    kept (fun _ => rfl) actions, kept (fun _ => rfl) branching, lasting triggers (List.take_subset _ _),
    lasting actions (List.take_subset _ _), lasting actions (List.drop_subset _ _),
    lasting branching (List.Subset.refl _)]

end Splice

/-- From the first node of a drawing on, the first edges at first outputs lead through the main chain of the plan. If
data operations are left out of the plan, whatever its handlers then name, they lead through the same steps but
those. -/
theorem walk_build {identifiers otherIdentifiers : Identifiers} (distinct : Function.Injective identifiers)
    (otherDistinct : Function.Injective otherIdentifiers) (configuration : Configuration) (name : String)
    (steps : List Step) :
    Visits configuration identifiers name steps (mainChain steps) ∧
    ∀ (removed : Nat → Bool) (rest : List Step),
      (∀ index step, steps[index]? = some step → removed index = true → step.role = .dataOp) →
      rest.map Step.unguarded = (survivors removed steps).map (fun part => part.1.unguarded) →
        Visits configuration otherIdentifiers name rest (mainChain rest) ∧
        (mainChain rest).map (((survivors removed steps).map Prod.snd)[·]?) =
          ((mainChain steps).filter (!removed ·)).map some :=
  ⟨visits_mainChain distinct, fun _ _ operations left =>
    ⟨visits_mainChain otherDistinct, mainChain_rest operations left⟩⟩

/-- A plan whose second step is drawn after the third. -/
def roundabout : List Step := [
  { name := "Form", nodeType := "n8n-nodes-base.formTrigger", role := .trigger },
  { name := "Map", nodeType := "n8n-nodes-base.set", role := .dataOp },
  { name := "Send", nodeType := "n8n-nodes-base.slack", mayFail := true },
  { name := "Sort", nodeType := "n8n-nodes-base.switch", role := .condition, outputs := 4 },
  { name := "Merge", nodeType := "n8n-nodes-base.merge", role := .dataOp },
  { name := "Log", nodeType := "n8n-nodes-base.code" },
  { name := "Webhook", nodeType := "n8n-nodes-base.webhook", role := .trigger },
  { name := "Fallback", nodeType := "n8n-nodes-base.noOp", role := .errorHandler, guards := some 2 }]

/-- Without its second step all others are met as before, although its handler now names another one. -/
theorem walk_build_roundabout :
    ∃ configuration, Configuration.standard = .ok configuration ∧ Function.Injective (Identifiers.sequential "node") ∧
      mainChain roundabout = [0, 2, 1, 4, 3, 5] ∧ mainChain (roundabout.eraseIdx 1) = [0, 1, 3, 2, 4] ∧
        Visits configuration (.sequential "node") "Roundabout" roundabout [0, 2, 1, 4, 3, 5] ∧
        Visits configuration (.sequential "node") "Roundabout" (roundabout.eraseIdx 1) [0, 1, 3, 2, 4] ∧
        [0, 1, 3, 2, 4].map (((survivors (· == 1) roundabout).map Prod.snd)[·]?) = [0, 2, 4, 3, 5].map some := by
  obtain ⟨configuration, accepted⟩ := Configuration.exists_standard
  have distinct := (Identifiers.proper_sequential "node").distinct
  have operations : ∀ index step, roundabout[index]? = some step → (index == 1) = true → step.role = .dataOp := by
    intro index step place second
    obtain rfl : index = 1 := by simpa using second
    cases place
    rfl
  obtain ⟨visits, spliced⟩ := walk_build distinct distinct configuration "Roundabout" roundabout
  obtain ⟨visitsRest, same⟩ := spliced (· == 1) (roundabout.eraseIdx 1) operations rfl
  have chain : mainChain roundabout = [0, 2, 1, 4, 3, 5] := by decide
  have chainRest : mainChain (roundabout.eraseIdx 1) = [0, 1, 3, 2, 4] := by decide
  rw [chain] at visits
  rw [chain, chainRest] at same
  rw [chainRest] at visitsRest
  exact ⟨configuration, accepted, distinct, chain, chainRest, visits, visitsRest, same⟩

end Workflow

end WorkflowSynthesis
