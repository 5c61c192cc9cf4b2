import Mathlib.Data.Set.Insert
import WorkflowSynthesis.Proofs.Workflow.Relay
import WorkflowSynthesis.Proofs.Workflow.Tree

/-!
What leaves the outputs of a drawing. The chain, the triggers and handlers without an error output use the first output
of a node, the ends of branches one output each of a branching node, and failures the output behind all others. What a
node still owes at an output is noted until an edge leaves there; in the end nothing is owed.
-/

namespace WorkflowSynthesis

namespace Connections

/-- How many edges leave an output of a node. -/
def fanOut (connections : Connections) (source : String) (output : Nat) : Nat :=
  (connections.edges.filter fun edge => edge.source = source ∧ edge.output = output).length

theorem fanOut_connect (connections : Connections) (source target : String) (output : Nat) (input : UInt32)
    (other : String) (place : Nat) :
    (connections.connect source output target input).fanOut other place =
      connections.fanOut other place + if source = other ∧ output = place then 1 else 0 := by
  unfold fanOut
  rw [((edges_connect connections source target output input).filter _).length_eq, List.filter_cons]
  split <;> simp_all

theorem fanOut_pos {connections : Connections} {source : String} {output : Nat} :
    0 < connections.fanOut source output ↔
      ∃ edge ∈ connections.edges, edge.source = source ∧ edge.output = output := by
  simp [fanOut, List.length_pos_iff_exists_mem]

/-- An edge that leaves an output alone. -/
theorem leaving_eq_singleton {connections : Connections} {edge : Edge} (member : edge ∈ connections.edges)
    (single : connections.fanOut edge.source edge.output ≤ 1) :
    connections.edges.filter (fun other => other.source = edge.source ∧ other.output = edge.output) = [edge] := by
  have listed : edge ∈ connections.edges.filter fun other => other.source = edge.source ∧ other.output = edge.output :=
    List.mem_filter.mpr ⟨member, decide_eq_true ⟨rfl, rfl⟩⟩
  obtain ⟨only, same⟩ := List.length_eq_one_iff.mp (Nat.le_antisymm single (List.length_pos_of_mem listed))
  rw [same, List.mem_singleton] at listed
  rw [same, listed]

end Connections

namespace Draft

variable {drawing : Drawing} {steps : List Step} {draft later : Draft}

/-- How an edge may leave an output of a node: onward from the first one, to the end of the branch that begins there, or
with the failures of the node behind all other outputs, under the error mode. -/
inductive Exit (drawing : Drawing) (source target : Placement) : Nat → Prop
  | onward : Exit drawing source target 0
  | branch {output : Nat} (branching : source.node.step.isBranching = true) (inside : output < source.node.step.outputs)
      (ends : target.source = none)
      (shown : target.node.step.core =
        (Step.branchEnd source.node.name source.node.step.outputs output).core) : Exit drawing source target output
  | failure (handles : target.node.role = .errorHandler) (mode : drawing.errorOutputMode ≠ "")
      (told : source.node.step.onError = some drawing.errorOutputMode) :
      Exit drawing source target source.node.step.outputs

/-- Every edge leaves its source in one of these ways, no two leave at the output of a branch, and of every branching
node an edge leaves at each output, unless it is owed there. -/
structure Disciplined (drawing : Drawing) (owed : Set (String × Nat)) (draft : Draft) : Prop where
  exits : ∀ edge ∈ draft.connections.edges, ∃ source ∈ draft.placements, ∃ target ∈ draft.placements,
    source.node.id = edge.source ∧ target.node.id = edge.target ∧ Exit drawing source target edge.output
  single : ∀ placement ∈ draft.placements, ∀ output, 1 ≤ output → output < placement.node.step.outputs →
    draft.connections.fanOut placement.node.id output ≤ 1
  unused : ∀ slot ∈ owed, draft.connections.fanOut slot.1 slot.2 = 0
  served : ∀ placement ∈ draft.placements, placement.node.step.isBranching = true →
    ∀ output < placement.node.step.outputs,
      (placement.node.id, output) ∈ owed ∨ 0 < draft.connections.fanOut placement.node.id output

theorem Laid.fanOut_fresh (laid : Laid drawing draft) (distinct : Function.Injective drawing.identifiers)
    (output : Nat) : draft.connections.fanOut (drawing.identifiers draft.placements.length) output = 0 := by
  refine Nat.eq_zero_of_not_pos fun leaves => ?_
  obtain ⟨edge, member, fresh, _⟩ := Connections.fanOut_pos.mp leaves
  obtain ⟨_, source, _⟩ := laid.forward edge member
  obtain ⟨placement, listed, same⟩ := List.mem_map.mp source
  have used : placement.node.id ∈ draft.ids := List.mem_map_of_mem (List.mem_map_of_mem listed)
  exact laid.fresh distinct (fresh ▸ (Prod.mk.inj same).1 ▸ used)

/-- An exit looks at all of a node but its error mode, which may be set. -/
theorem Exit.of_silent {source target twin other : Placement} {output : Nat} (exit : Exit drawing source target output)
    (same : twin.silent = source.silent) (alike : other.silent = target.silent)
    (told : source.node.step.onError = some drawing.errorOutputMode →
      twin.node.step.onError = some drawing.errorOutputMode) : Exit drawing twin other output := by
  have outputs : twin.node.step.outputs = source.node.step.outputs :=
    Placement.eq_of_silent same (·.node.step.outputs) fun _ => rfl
  cases exit with
  | onward => exact .onward
  | branch branching inside ends shown =>
    have name : twin.node.name = source.node.name := Placement.eq_of_silent same (·.node.name) fun _ => rfl
    refine .branch ?_ (outputs ▸ inside) ?_ ?_
    · exact (Placement.eq_of_silent same (·.node.step.isBranching) fun _ => rfl).trans branching
    · exact (Placement.eq_of_silent alike (·.source) fun _ => rfl).trans ends
    · rw [name, outputs]
      exact (Placement.eq_of_silent alike (·.node.step.core) fun _ => rfl).trans shown
  | failure handles mode failing =>
    rw [← outputs]
    exact .failure ((Placement.eq_of_silent alike (·.node.role) fun _ => rfl).trans handles) mode (told failing)

namespace Disciplined

variable {owed : Set (String × Nat)}

theorem empty : Disciplined drawing ∅ {} where
  exits edge member := by simp [Connections.edges, Connections.empty, Dictionary.empty] at member
  single placement member := by simp at member
  unused slot member := by cases member
  served placement member := by simp at member

/-- A new node that branches owes an edge at each of its outputs. -/
theorem place (disciplined : Disciplined drawing owed draft) (laid : Laid drawing draft)
    (distinct : Function.Injective drawing.identifiers) (origin : Option Nat) (step : Step) (stage lane : Nat) :
    Disciplined drawing (owed ∪ {slot | step.isBranching = true ∧
        slot.1 = drawing.identifiers draft.placements.length ∧ slot.2 < step.outputs})
      (draft.place drawing origin step stage lane) where
  exits edge member := by
    obtain ⟨source, listed, target, held, ends⟩ := disciplined.exits edge member
    exact ⟨source, List.mem_append_left _ listed, target, List.mem_append_left _ held, ends⟩
  single := by
    rw [Draft.place, List.forall_mem_append, List.forall_mem_singleton]
    refine ⟨disciplined.single, fun output _ _ => ?_⟩
    exact (laid.fanOut_fresh distinct output).trans_le (Nat.zero_le 1)
  unused := by
    rintro ⟨id, output⟩ (old | ⟨_, rfl, _⟩)
    · exact disciplined.unused _ old
    · exact laid.fanOut_fresh distinct output
  served := by
    rw [Draft.place, List.forall_mem_append, List.forall_mem_singleton]
    refine ⟨fun placement member branching output inside => ?_, fun branching output inside => ?_⟩
    · exact (disciplined.served placement member branching output inside).imp_left .inl
    · exact .inl (.inr ⟨branching, rfl, inside⟩)

theorem place_straight (disciplined : Disciplined drawing owed draft) (laid : Laid drawing draft)
    (distinct : Function.Injective drawing.identifiers) {origin : Option Nat} {step : Step} {stage lane : Nat}
    (straight : step.isBranching = false) :
    Disciplined drawing owed (draft.place drawing origin step stage lane) := by
  have placed := disciplined.place laid distinct origin step stage lane
  simpa [straight] using placed

/-- An edge at the output of a branch may only be drawn where it is owed; it pays off. -/
theorem connect (disciplined : Disciplined drawing owed draft) (laid : Laid drawing draft)
    (distinct : Function.Injective drawing.identifiers) {source target : Placement} (member : source ∈ draft.placements)
    (held : target ∈ draft.placements) {output : Nat} (exit : Exit drawing source target output)
    (due : 1 ≤ output → output < source.node.step.outputs → (source.node.id, output) ∈ owed) :
    Disciplined drawing (owed \ {(source.node.id, output)}) (draft.connect source.node.id output target.node.id) where
  exits edge leads := by
    rcases Connections.mem_edges_connect.mp leads with rfl | old
    · exact ⟨source, member, target, held, rfl, rfl, exit⟩
    · exact disciplined.exits edge old
  single placement listed place low high := by
    rw [connections_connect, Connections.fanOut_connect]
    split
    · next here =>
      obtain ⟨same, rfl⟩ := here
      obtain rfl := laid.unique distinct member listed same
      rw [disciplined.unused _ (due low high)]
    · exact disciplined.single placement listed place low high
  unused := by
    rintro ⟨id, place⟩ ⟨old, other⟩
    have elsewhere : ¬(source.node.id = id ∧ output = place) := fun same => other (Prod.ext same.1.symm same.2.symm)
    rw [connections_connect, Connections.fanOut_connect, if_neg elsewhere]
    exact disciplined.unused _ old
  served placement listed branching place inside := by
    rw [connections_connect, Connections.fanOut_connect]
    by_cases here : source.node.id = placement.node.id ∧ output = place
    · rw [if_pos here]
      exact .inr (Nat.succ_pos _)
    · rw [if_neg here]
      refine (disciplined.served placement listed branching place inside).imp_left fun old => ⟨old, fun same => here ?_⟩
      exact (Prod.mk.inj same).imp Eq.symm Eq.symm

/-- Setting an error mode changes no output. -/
theorem fail (disciplined : Disciplined drawing owed draft) (id : String) :
    Disciplined drawing owed { draft with
      placements := changeFirst id (Step.failing drawing.errorOutputMode) draft.placements } := by
  have twin : ∀ placement ∈ draft.placements,
      ∃ twin ∈ changeFirst id (Step.failing drawing.errorOutputMode) draft.placements,
        twin.silent = placement.silent ∧ (placement.node.step.onError = some drawing.errorOutputMode →
          twin.node.step.onError = some drawing.errorOutputMode) := by
    intro placement member
    obtain ⟨twin, held, same⟩ := exists_mem_changeFirst id (Step.failing drawing.errorOutputMode) member
    rcases same with rfl | rfl
    · exact ⟨_, held, rfl, fun told => told⟩
    · exact ⟨_, held, rfl, fun _ => rfl⟩
  have kept : ∀ {placement : Placement},
      placement ∈ changeFirst id (Step.failing drawing.errorOutputMode) draft.placements → ∃ old ∈ draft.placements, old.silent = placement.silent :=
    Placement.exists_silent (silent_fail id drawing.errorOutputMode draft.placements)
  constructor
  · intro edge leads
    obtain ⟨source, listed, target, held, sourceId, targetId, exit⟩ := disciplined.exits edge leads
    obtain ⟨sourceTwin, sourceHeld, same, told⟩ := twin source listed
    obtain ⟨targetTwin, targetHeld, alike, _⟩ := twin target held
    exact ⟨sourceTwin, sourceHeld, targetTwin, targetHeld,
      (Placement.eq_of_silent same (·.node.id) fun _ => rfl).trans sourceId,
      (Placement.eq_of_silent alike (·.node.id) fun _ => rfl).trans targetId, exit.of_silent same alike told⟩
  · intro placement member
    obtain ⟨old, listed, same⟩ := kept member
    have single := disciplined.single old listed
    rwa [Placement.eq_of_silent same (·.node.id) fun _ => rfl,
      Placement.eq_of_silent same (·.node.step.outputs) fun _ => rfl] at single
  · exact disciplined.unused
  · intro placement member
    obtain ⟨old, listed, same⟩ := kept member
    have served := disciplined.served old listed
    rwa [Placement.eq_of_silent same (·.node.id) fun _ => rfl,
      Placement.eq_of_silent same (·.node.step.outputs) fun _ => rfl,
      Placement.eq_of_silent same (·.node.step.isBranching) fun _ => rfl] at served

section Ends

variable (laid : Laid drawing draft) (distinct : Function.Injective drawing.identifiers) {parent : Placement}
  (member : parent ∈ draft.placements) (branching : parent.node.step.isBranching = true)
include laid distinct member branching

/-- The end of a branch pays off what is owed there. -/
theorem addBranchEnd (disciplined : Disciplined drawing owed draft) {output lane : Nat}
    (inside : output < parent.node.step.outputs) (due : (parent.node.id, output) ∈ owed)
    (free : draft.isOccupied (parent.stage + 1) lane = false) :
    Disciplined drawing (owed \ {(parent.node.id, output)}) (draft.addBranchEnd drawing parent.node output lane) := by
  have placed : Disciplined drawing owed (draft.place drawing none
      (Step.branchEnd parent.node.name parent.node.step.outputs output) (parent.stage + 1) lane) :=
    disciplined.place_straight laid distinct rfl
  rw [addBranchEnd_eq_hang distinct laid member]
  exact placed.connect (laid.place _ _ free) distinct (List.mem_append_left _ member)
    (List.mem_append_right _ (List.mem_singleton_self _)) (.branch branching inside rfl rfl) fun _ _ => due

/-- The ends of several branches pay off what is owed at each of them. -/
theorem foldl_addBranchEnd (disciplined : Disciplined drawing owed draft) {outputs : List Nat} (nodup : outputs.Nodup)
    (due : ∀ output ∈ outputs, output < parent.node.step.outputs ∧ (parent.node.id, output) ∈ owed) :
    Disciplined drawing (owed \ {slot | slot.1 = parent.node.id ∧ slot.2 ∈ outputs})
      (outputs.foldl (fun draft output =>
        draft.addBranchEnd drawing parent.node output (draft.nextLane (parent.stage + 1))) draft) := by
  induction outputs generalizing draft owed with
  | nil => simpa using disciplined
  | cons output rest ih =>
    obtain ⟨⟨inside, here⟩, others⟩ := List.forall_mem_cons.mp due
    obtain ⟨absent, nodup⟩ := List.nodup_cons.mp nodup
    obtain ⟨_, free, _⟩ := draft.nextLane_spec (parent.stage + 1)
    have hung : draft.addBranchEnd drawing parent.node output (draft.nextLane (parent.stage + 1)) =
        draft.hang drawing parent output none _ _ := addBranchEnd_eq_hang distinct laid member _ _
    have paid := disciplined.addBranchEnd laid distinct member branching inside here free
    have same : owed \ {slot | slot.1 = parent.node.id ∧ slot.2 ∈ output :: rest} =
        (owed \ {(parent.node.id, output)}) \ {slot | slot.1 = parent.node.id ∧ slot.2 ∈ rest} := by
      ext ⟨id, place⟩
      simp only [Set.mem_sdiff, Set.mem_ofPred_eq, List.mem_cons, Set.mem_singleton_iff, Prod.mk.injEq]
      tauto
    rw [same, List.foldl_cons]
    refine ih (hung ▸ laid.hang member output none _ free) (List.mem_append_left _ member) paid nodup ?_
    intro other listed
    refine ⟨(others other listed).1, (others other listed).2, fun paidOff => absent ?_⟩
    exact (Prod.mk.inj paidOff).2 ▸ listed

/-- The ends of all branches but the first pay off what is owed at these. -/
theorem addBranchEnds (disciplined : Disciplined drawing owed draft)
    (due : ∀ output, 1 ≤ output → output < parent.node.step.outputs → (parent.node.id, output) ∈ owed) :
    Disciplined drawing (owed \ {slot | slot.1 = parent.node.id ∧ 1 ≤ slot.2 ∧ slot.2 < parent.node.step.outputs})
      (draft.addBranchEnds drawing parent.node parent.stage) := by
  have outputs : ∀ output, output ∈ List.range' 1 (parent.node.step.outputs - 1) ↔
      1 ≤ output ∧ output < parent.node.step.outputs := by
    intro output
    rw [List.mem_range'_1]
    omega
  have paid := disciplined.foldl_addBranchEnd laid distinct member branching List.nodup_range' fun output listed =>
    ⟨((outputs output).mp listed).2, due output ((outputs output).mp listed).1 ((outputs output).mp listed).2⟩
  simp only [outputs] at paid
  exact paid

end Ends

end Disciplined

end Draft

namespace Chain

variable {drawing : Drawing} {chain : Chain} {stage : Nat}

/-- What a chain owes: an edge at the first output of the branching node at its end. -/
def owed (chain : Chain) : Set (String × Nat) :=
  {slot | ∃ node ∈ chain.tail, node.step.isBranching = true ∧ slot = (node.id, 0)}

theorem owed_of_straight (straight : ∀ node ∈ chain.tail, node.step.isBranching = false) : chain.owed = ∅ := by
  refine Set.eq_empty_of_forall_notMem ?_
  rintro _ ⟨node, last, branching, _⟩
  exact Bool.false_ne_true ((straight node last).symm.trans branching)

/-- An extended chain owes an edge at the first output of its new node, if this branches. -/
theorem owed_extend (part : Nat × Step) : (extend drawing chain (part, stage)).owed =
    {slot | part.2.isBranching = true ∧ slot = (drawing.identifiers chain.draft.placements.length, 0)} := by
  simp only [owed, tail_extend, Option.mem_def, Option.some.injEq, exists_eq_left']
  rfl

section Ends

variable (distinct : Function.Injective drawing.identifiers)
include distinct

/-- The next node of the chain takes the first output of the last one, and owes what leaves its own. -/
theorem disciplined_append (course : Course drawing stage chain)
    (disciplined : chain.draft.Disciplined drawing chain.owed) (part : Nat × Step) :
    (append drawing chain (part, stage)).Disciplined drawing
      {slot | part.2.isBranching = true ∧ slot.1 = drawing.identifiers chain.draft.placements.length ∧
        slot.2 < part.2.outputs} := by
  have placed := disciplined.place course.laid distinct (some part.1) part.2 stage 0
  have fresh := course.laid.fresh distinct
  cases ends : chain.tail with
  | none =>
    rw [owed_of_straight (by simp [ends]), Set.empty_union] at placed
    rw [append, ends]
    exact placed
  | some previous =>
    obtain ⟨parent, member, rfl, _, rfl⟩ := course.tail previous ends
    have used : parent.node.id ≠ drawing.identifiers chain.draft.placements.length := fun same =>
      fresh (same ▸ List.mem_map_of_mem (List.mem_map_of_mem member))
    have connected := placed.connect (course.laid.place _ _ course.free) distinct (List.mem_append_left _ member)
      (List.mem_append_right _ (List.mem_singleton_self _)) .onward fun low _ => absurd low (by decide)
    have same : {slot : String × Nat | part.2.isBranching = true ∧
          slot.1 = drawing.identifiers chain.draft.placements.length ∧ slot.2 < part.2.outputs} =
        (chain.owed ∪ {slot | part.2.isBranching = true ∧
          slot.1 = drawing.identifiers chain.draft.placements.length ∧ slot.2 < part.2.outputs}) \
            {(parent.node.id, 0)} := by
      ext ⟨id, output⟩
      simp only [owed, ends, Set.mem_sdiff, Set.mem_union, Set.mem_ofPred_eq, Set.mem_singleton_iff, Prod.mk.injEq,
        Option.mem_def, Option.some.injEq, exists_eq_left']
      grind
    rw [same, append_eq_hang ends]
    exact connected

theorem disciplined_extend (course : Course drawing stage chain)
    (disciplined : chain.draft.Disciplined drawing chain.owed) (part : Nat × Step) :
    (extend drawing chain (part, stage)).draft.Disciplined drawing (extend drawing chain (part, stage)).owed := by
  have appended := disciplined_append distinct course disciplined part
  rw [owed_extend, extend_eq]
  dsimp only
  split
  · next branching =>
    have member : nextPlacement drawing chain (part, stage) ∈ (append drawing chain (part, stage)).placements := by simp
    have branches : (nextPlacement drawing chain (part, stage)).node.step.isBranching = true :=
      (isBranching_nextPlacement _).trans branching
    have ended := appended.addBranchEnds (course.laid_append part) distinct member branches
      fun output _ inside => ⟨branching, rfl, inside⟩
    have several := (Step.isBranching_iff.mp branching).2
    have same : {slot : String × Nat | part.2.isBranching = true ∧
          slot = (drawing.identifiers chain.draft.placements.length, 0)} =
        {slot | part.2.isBranching = true ∧ slot.1 = drawing.identifiers chain.draft.placements.length ∧
            slot.2 < part.2.outputs} \
          {slot | slot.1 = drawing.identifiers chain.draft.placements.length ∧ 1 ≤ slot.2 ∧ slot.2 < part.2.outputs} := by
      ext ⟨id, output⟩
      simp only [Set.mem_sdiff, Set.mem_ofPred_eq, Prod.mk.injEq]
      grind
    rw [same]
    exact ended
  · next straight =>
    simpa [straight] using appended

theorem disciplined_ofSteps (parts : List (Nat × Step)) :
    (ofSteps drawing parts).draft.Disciplined drawing (ofSteps drawing parts).owed := by
  induction parts using List.reverseRecOn with
  | nil =>
    have settled : ({} : Chain).owed = ∅ := owed_of_straight fun node last => by cases last
    exact settled ▸ .empty
  | append_singleton parts part ih =>
    rw [ofSteps_concat]
    exact disciplined_extend distinct (course_ofSteps distinct parts) ih part

/-- A chain that is closed owes nothing. -/
theorem disciplined_closed (course : Course drawing stage chain)
    (disciplined : chain.draft.Disciplined drawing chain.owed) : (chain.closed drawing).Disciplined drawing ∅ := by
  unfold closed
  split
  · next node last =>
    obtain ⟨parent, member, rfl, _, rfl⟩ := course.tail node last
    split
    · next branching =>
      have several : 0 < parent.node.step.outputs := Nat.zero_lt_of_lt (Step.isBranching_iff.mp branching).2
      have due : (parent.node.id, 0) ∈ chain.owed := ⟨parent.node, last, branching, rfl⟩
      have closed := disciplined.addBranchEnd course.laid distinct member branching several due course.free
      have all : chain.owed \ {(parent.node.id, 0)} = ∅ := by
        simp only [Set.sdiff_eq_empty, owed, last, Option.mem_def, Option.some.injEq]
        rintro _ ⟨_, rfl, _, rfl⟩
        rfl
      exact all ▸ closed
    · next straight =>
      have settled : chain.owed = ∅ := owed_of_straight (by simpa [last] using straight)
      exact settled ▸ disciplined
  · next ends =>
    have settled : chain.owed = ∅ := owed_of_straight (by simp [ends])
    exact settled ▸ disciplined

end Ends

end Chain

namespace Draft

variable {drawing : Drawing} {steps : List Step} {draft : Draft}

section Parts

variable (distinct : Function.Injective drawing.identifiers)
include distinct

/-- An edge at the first output, or behind all others, pays off nothing. -/
theorem Disciplined.connect_aside (disciplined : Disciplined drawing ∅ draft) (laid : Laid drawing draft)
    {source target : Placement} (member : source ∈ draft.placements) (held : target ∈ draft.placements) {output : Nat}
    (exit : Exit drawing source target output) (aside : output = 0 ∨ output = source.node.step.outputs) :
    Disciplined drawing ∅ (draft.connect source.node.id output target.node.id) := by
  have connected := disciplined.connect laid distinct member held exit fun low high => by omega
  simpa using connected

theorem Disciplined.addTrigger (disciplined : Disciplined drawing ∅ draft) (laid : Laid drawing draft)
    {second : Option Node} {part : Nat × Step} (straight : part.2.isBranching = false)
    (known : ∀ node ∈ second, ∃ placement ∈ draft.placements, placement.node = node) :
    Disciplined drawing ∅ (draft.addTrigger drawing second part) := by
  obtain ⟨_, free, _⟩ := draft.nextLane_spec 0
  have placed : Disciplined drawing ∅ (draft.place drawing (some part.1) part.2 0 (draft.nextLane 0)) :=
    disciplined.place_straight laid distinct straight
  cases second with
  | none => exact placed
  | some node =>
    obtain ⟨target, member, rfl⟩ := known node rfl
    exact placed.connect_aside distinct (laid.place _ _ free) (List.mem_append_right _ (List.mem_singleton_self _))
      (List.mem_append_left _ member) .onward (.inl rfl)

theorem Disciplined.addTriggers (disciplined : Disciplined drawing ∅ draft) (laid : Laid drawing draft)
    {second : Option Node} {parts : List (Nat × Step)}
    (listed : ∀ part ∈ parts, steps[part.1]? = some part.2 ∧ part.2.isBranching = false)
    (known : ∀ node ∈ second, ∃ placement ∈ draft.placements, placement.node = node ∧ placement.stage = 1) :
    Disciplined drawing ∅ (parts.foldl (Draft.addTrigger drawing second) draft) := by
  refine addTriggers_induction laid (fun part member => (listed part member).1) known disciplined ?_
  intro draft part member laid known disciplined
  exact disciplined.addTrigger distinct laid (listed part member).2 fun node found =>
    (known node found).imp fun _ held => ⟨held.1, held.2.1⟩

/-- A handler takes the output behind all others of the node that it guards, under the error mode, or its first one. -/
theorem Disciplined.addHandler (disciplined : Disciplined drawing ∅ draft) (laid : Laid drawing draft)
    {tail : Option Node} {part : Nat × Step} (isHandler : part.2.role = .errorHandler)
    (ends : ∀ node ∈ tail, OfPlan draft node.id) :
    Disciplined drawing ∅ (draft.addHandler drawing tail part) := by
  obtain ⟨index, handler⟩ := part
  change handler.role = .errorHandler at isHandler
  have straight : handler.isBranching = false := Step.isBranching_eq_false (by rw [isHandler]; decide)
  cases found : draft.guarded? tail handler with
  | none =>
    rw [addHandler_none found]
    exact disciplined.place_straight laid distinct straight
  | some id =>
    obtain ⟨guarded, member, rfl, _⟩ := ofPlan_guarded? ends found
    obtain ⟨_, free, _⟩ := draft.nextLane_spec (guarded.stage + 1)
    have placed : Disciplined drawing ∅ (draft.place drawing (some index) handler (guarded.stage + 1)
      (draft.nextLane (guarded.stage + 1))) := disciplined.place_straight laid distinct straight
    have placedLaid := laid.place (some index) handler free
    obtain ⟨new, _, role, drawn⟩ := addHandler_cases distinct laid index member found
    split at drawn
    · next telling =>
      rw [Bool.and_eq_true, decide_eq_true_eq] at telling
      obtain ⟨failing, listed, drawn⟩ := drawn
      rw [drawn]
      -- The mode is set before the edge is drawn, on the guarded node alone.
      have failingLaid := placedLaid.of_silent (silent_fail guarded.node.id drawing.errorOutputMode _)
      exact (placed.fail guarded.node.id).connect_aside distinct failingLaid failing listed
        (.failure (role.trans isHandler) telling.2 rfl) (.inr rfl)
    · obtain ⟨present, listed, drawn⟩ := drawn
      rw [drawn]
      exact placed.connect_aside distinct placedLaid present listed .onward (.inl rfl)

theorem Disciplined.addHandlers (disciplined : Disciplined drawing ∅ draft) (laid : Laid drawing draft)
    {tail : Option Node} {parts : List (Nat × Step)}
    (planned : ∀ part ∈ parts, steps[part.1]? = some part.2 ∧ part.2.role = .errorHandler)
    (ends : ∀ node ∈ tail, OfPlan draft node.id) :
    Disciplined drawing ∅ (parts.foldl (Draft.addHandler drawing tail) draft) := by
  refine addHandlers_induction distinct laid (fun part listed => (planned part listed).1) ends disciplined ?_
  intro draft part listed laid ends disciplined
  exact disciplined.addHandler distinct laid (planned part listed).2 ends

theorem disciplined_beforeHandlers (steps : List Step) : Disciplined drawing ∅ (beforeHandlers drawing steps) := by
  have inChain : ∀ part ∈ (PlanParts.ofSteps steps).chain, steps[part.1]? = some part.2 := fun _ =>
    PlanParts.getElem?_of_mem_chain
  obtain ⟨moved, _, second⟩ := moved_chain distinct inChain
  have closed := Chain.disciplined_closed distinct (Chain.course_ofSteps distinct (PlanParts.ofSteps steps).chain)
    (Chain.disciplined_ofSteps distinct _)
  have further : ∀ part ∈ (PlanParts.ofSteps steps).triggers.drop 1,
      steps[part.1]? = some part.2 ∧ part.2.isBranching = false := fun part member =>
    have ⟨place, isTrigger⟩ := PlanParts.mem_triggers.mp (List.mem_of_mem_drop member)
    ⟨place, Step.isBranching_eq_false (by rw [isTrigger]; decide)⟩
  exact closed.addTriggers distinct (Laid.empty.moved moved) further second

theorem disciplined_ofSteps (steps : List Step) : Disciplined drawing ∅ (ofSteps drawing steps) := by
  obtain ⟨before, tail⟩ := moved_beforeHandlers distinct steps
  rw [ofSteps_eq]
  exact (disciplined_beforeHandlers distinct steps).addHandlers distinct (Laid.empty.moved before)
    (fun _ => PlanParts.mem_handlers.mp) tail

end Parts

theorem one_le_outputs {steps : List Step} (open' : ∀ step ∈ steps, 1 ≤ step.outputs) {placement : Placement}
    (member : placement ∈ (ofSteps drawing steps).placements) : 1 ≤ placement.node.step.outputs := by
  rcases (grown_ofSteps drawing steps).origin placement member with ⟨_, step, planned, same⟩ | ⟨_, _, _, _, same⟩
  · have outputs : placement.node.step.outputs = step.outputs := congrArg (·.outputs) same
    exact outputs ▸ open' step planned
  · have outputs : placement.node.step.outputs = 1 := congrArg (·.outputs) same
    exact outputs.ge

end Draft

namespace Workflow

/-- In the drawing of steps that each have an output, an edge leaves a condition with several outputs at each of them.
An edge at an output from the second on leaves such a condition alone there and leads to the end of that branch, from
which no edge goes on. An edge behind all outputs leads to a node that handles failures, and only from a node with the
error mode. There is no edge further behind. -/
theorem outputs_build {identifiers : Identifiers} (distinct : Function.Injective identifiers)
    (configuration : Configuration) (name : String) {steps : List Step} (open' : ∀ step ∈ steps, 1 ≤ step.outputs) :
    let workflow := (build configuration identifiers name steps).1
    (∀ node ∈ workflow.nodes, node.role = .condition → 1 < node.step.outputs →
      ∀ output < node.step.outputs, workflow.connections.targets node.id output ≠ []) ∧
    ∀ edge ∈ workflow.connections.edges, ∃ source target,
      workflow.node? edge.source = some source ∧ workflow.node? edge.target = some target ∧
        edge.output ≤ source.step.outputs ∧
        (1 ≤ edge.output → edge.output < source.step.outputs →
          source.role = .condition ∧
          target.step.core = (Step.branchEnd source.name source.step.outputs edge.output).core ∧
          workflow.connections.outgoing target.id = [] ∧
          workflow.connections.edges.filter (fun other => other.source = edge.source ∧ other.output = edge.output) =
            [edge]) ∧
        (edge.output = source.step.outputs →
          target.role = .errorHandler ∧ source.step.onError = some configuration.failures.errorOutputMode) := by
  intro workflow
  have laid : (Draft.ofSteps (drawing configuration identifiers) steps).Laid (drawing configuration identifiers) :=
    Draft.laid_ofSteps distinct steps
  have traced : (Draft.ofSteps (drawing configuration identifiers) steps).Traced
      (drawing configuration identifiers) steps := Draft.traced_ofSteps distinct steps
  have disciplined : (Draft.ofSteps (drawing configuration identifiers) steps).Disciplined
      (drawing configuration identifiers) ∅ := Draft.disciplined_ofSteps distinct steps
  have unique : (workflow.nodes.map (·.id)).Nodup := laid.nodup_ids distinct
  refine ⟨fun node member isCondition several output inside unserved => ?_, fun edge leads => ?_⟩
  · obtain ⟨placement, listed, rfl⟩ := List.mem_map.mp member
    have branching : placement.node.step.isBranching = true := Step.isBranching_iff.mpr ⟨isCondition, several⟩
    have leaves := (disciplined.served placement listed branching output inside).resolve_left (Set.notMem_empty _)
    obtain ⟨edge, leads, source, rfl⟩ := Connections.fanOut_pos.mp leaves
    obtain ⟨target, aimed, _⟩ := Connections.mem_edges.mp leads
    exact List.ne_nil_of_mem (source ▸ aimed) unserved
  · obtain ⟨source, listed, target, held, sourceId, targetId, exit⟩ := disciplined.exits edge leads
    have opens : 1 ≤ source.node.step.outputs := Draft.one_le_outputs open' listed
    refine ⟨source.node, target.node, sourceId ▸ node?_of_mem unique (List.mem_map_of_mem listed),
      targetId ▸ node?_of_mem unique (List.mem_map_of_mem held), ?_⟩
    have alone : 1 ≤ edge.output → edge.output < source.node.step.outputs → workflow.connections.edges.filter
        (fun other => other.source = edge.source ∧ other.output = edge.output) = [edge] := fun low high =>
      Connections.leaving_eq_singleton leads (sourceId ▸ disciplined.single source listed edge.output low high)
    generalize edge.output = output at exit alone ⊢
    cases exit with
    | onward => exact ⟨Nat.zero_le _, fun low => absurd low (by decide), fun same => by omega⟩
    | branch branching inside ends shown =>
      have isCondition : source.node.role = .condition := (Step.isBranching_iff.mp branching).1
      exact ⟨Nat.le_of_lt inside, fun low high => ⟨isCondition, shown, traced.outgoing_eq_nil laid distinct held ends,
        alone low high⟩, fun same => absurd same (Nat.ne_of_lt inside)⟩
    | failure handles _ told =>
      exact ⟨Nat.le_refl _, fun _ high => absurd high (Nat.lt_irrefl _), fun _ => ⟨handles, told⟩⟩

/-- A step of the plan that is no note has a node. -/
theorem exists_node_of_planned (configuration : Configuration) (identifiers : Identifiers) (name : String)
    {steps : List Step} {step : Step} (planned : step ∈ steps) (placed : step.role ≠ .note) :
    ∃ node ∈ (build configuration identifiers name steps).1.nodes, node.step.core = step.core :=
  Draft.exists_node _ planned placed

/-- The switch of a survey leads on at each of its three outputs. -/
theorem outputs_build_survey :
    ∃ configuration, Configuration.standard = .ok configuration ∧ Function.Injective (Identifiers.sequential "node") ∧
      (∀ step ∈ survey, 1 ≤ step.outputs) ∧
        let workflow := (build configuration (.sequential "node") "Survey" survey).1
        (∃ node ∈ workflow.nodes, node.step.outputs = 3 ∧
          ∀ output < 3, workflow.connections.targets node.id output ≠ []) ∧
        ∀ edge ∈ workflow.connections.edges, ∃ source, workflow.node? edge.source = some source ∧
          edge.output ≤ source.step.outputs := by
  obtain ⟨configuration, accepted⟩ := Configuration.exists_standard
  have distinct := (Identifiers.proper_sequential "node").distinct
  have opens : ∀ step ∈ survey, 1 ≤ step.outputs := by decide
  obtain ⟨served, exits⟩ := outputs_build distinct configuration "Survey" opens
  refine ⟨configuration, accepted, distinct, opens, ?_⟩
  intro workflow
  refine ⟨?_, fun edge leads => ?_⟩
  · have planned : { name := "Send", nodeType := "n8n-nodes-base.switch", role := .condition, outputs := 3 : Step } ∈
        survey := by simp [survey]
    obtain ⟨node, member, same⟩ : ∃ node ∈ workflow.nodes, node.step.core = _ :=
      exists_node_of_planned configuration (.sequential "node") "Survey" planned (by decide)
    have outputs : node.step.outputs = 3 := congrArg (·.outputs) same
    have isCondition : node.role = .condition := congrArg (·.role) same
    refine ⟨node, member, outputs, fun output inside => ?_⟩
    exact served node member isCondition (by rw [outputs]; decide) output (outputs ▸ inside)
  · obtain ⟨source, _, found, _, inside, _⟩ := exits edge leads
    exact ⟨source, found, inside⟩

end Workflow

end WorkflowSynthesis
