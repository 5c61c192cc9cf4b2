import Mathlib.Logic.Relation
import WorkflowSynthesis.Proofs.Dictionary
import WorkflowSynthesis.Workflow.Connections

/-!
What a new connection changes: one target more at one output, and nothing elsewhere, so one edge more among all
edges. Following edges from node to node leads along paths.
-/

namespace WorkflowSynthesis.Connections

theorem getD_addTarget (target : Target) (output other : Nat) (outputs : List (List Target)) :
    ((addTarget target output outputs)[other]?).getD [] =
      if other = output then (outputs[other]?).getD [] ++ [target] else (outputs[other]?).getD [] := by
  induction output generalizing other outputs with
  | zero =>
    cases outputs <;> cases other <;> simp [addTarget]
  | succ output ih =>
    cases outputs <;> cases other <;> simp [addTarget, ih]

theorem targets_connect (connections : Connections) (source target : String) (output : Nat) (input : UInt32)
    (other : String) (place : Nat) :
    (connections.connect source output target input).targets other place =
      if other = source ∧ place = output then
        connections.targets other place ++ [{ node := target, index := input }]
      else connections.targets other place := by
  simp only [targets, connect, Dictionary.get?_insert]
  by_cases same : other = source
  · simp [same, getD_addTarget]
  · simp [same]

theorem mem_edgesOf {source : String} {outputs : List (List Target)} {edge : Edge} :
    edge ∈ edgesOf source outputs ↔ edge.source = source ∧
      ∃ target ∈ (outputs[edge.output]?).getD [], target.node = edge.target ∧ target.index = edge.input := by
  obtain ⟨origin, output, goal, input⟩ := edge
  simp only [edgesOf, List.mem_flatMap, List.mem_map, Prod.exists, List.mem_zipIdx_iff_getElem?, Edge.mk.injEq]
  constructor
  · rintro ⟨targets, place, found, target, member, rfl, rfl, rfl, rfl⟩
    exact ⟨rfl, target, by simpa [found] using member, rfl, rfl⟩
  · rintro ⟨rfl, target, member, rfl, rfl⟩
    cases found : outputs[output]? with
    | none => simp [found] at member
    | some targets => exact ⟨targets, output, found, target, by simpa [found] using member, rfl, rfl, rfl, rfl⟩

/-- An edge is a target of its source at its output. -/
theorem mem_edges {connections : Connections} {edge : Edge} :
    edge ∈ connections.edges ↔
      ∃ target ∈ connections.targets edge.source edge.output, target.node = edge.target ∧ target.index = edge.input := by
  simp only [edges, List.mem_flatMap, Prod.exists, mem_edgesOf, targets]
  constructor
  · rintro ⟨source, outputs, entry, rfl, found⟩
    simpa [Dictionary.get?_eq_some_iff.mpr entry] using found
  · intro found
    cases entry : connections.outputs.get? edge.source with
    | none => simp [entry] at found
    | some outputs =>
      exact ⟨edge.source, outputs, Dictionary.get?_eq_some_iff.mp entry, rfl, by simpa [entry] using found⟩

@[simp]
theorem mem_edges_connect {connections : Connections} {source target : String} {output : Nat} {input : UInt32}
    {edge : Edge} :
    edge ∈ (connections.connect source output target input).edges ↔
      edge = ⟨source, output, target, input⟩ ∨ edge ∈ connections.edges := by
  obtain ⟨origin, place, goal, port⟩ := edge
  simp only [mem_edges, targets_connect, Edge.mk.injEq]
  split
  · next here =>
    obtain ⟨rfl, rfl⟩ := here
    simp only [List.mem_append, List.mem_singleton, or_and_right, exists_or, exists_eq_left, true_and]
    rw [or_comm, eq_comm (a := target), eq_comm (a := input)]
  · next elsewhere => grind

@[simp]
theorem mem_sources_connect {connections : Connections} {source target other : String} {output : Nat}
    {input : UInt32} :
    other ∈ (connections.connect source output target input).outputs.keys ↔
      other = source ∨ other ∈ connections.outputs.keys := by
  simp [connect]

theorem mem_outgoing {connections : Connections} {source : String} {edge : Edge} :
    edge ∈ connections.outgoing source ↔ edge ∈ connections.edges ∧ edge.source = source := by
  simp [outgoing]

/-- One target more among the targets of all outputs. -/
theorem flatMap_addTarget {α : Type} (view : Nat → Target → α) (target : Target) (output first : Nat)
    (outputs : List (List Target)) :
    (((addTarget target output outputs).zipIdx first).flatMap fun (targets, place) => targets.map (view place)).Perm
      (view (first + output) target ::
        (outputs.zipIdx first).flatMap fun (targets, place) => targets.map (view place)) := by
  induction output generalizing first outputs with
  | zero => cases outputs <;> simp [addTarget]
  | succ output ih =>
    cases outputs with
    | nil => simpa [addTarget, Nat.add_assoc, Nat.add_comm 1] using ih (first + 1) []
    | cons targets rest =>
      have later := ih (first + 1) rest
      rw [Nat.add_assoc, Nat.add_comm 1] at later
      simp only [addTarget, List.zipIdx_cons, List.flatMap_cons]
      exact (later.append_left _).trans List.perm_middle

theorem edgesOf_addTarget (source : String) (target : Target) (output : Nat) (outputs : List (List Target)) :
    (edgesOf source (addTarget target output outputs)).Perm
      ({ source, output, target := target.node, input := target.index } :: edgesOf source outputs) := by
  have added := flatMap_addTarget
    (fun output target => ({ source, output, target := target.node, input := target.index } : Edge)) target output 0 outputs
  rwa [Nat.zero_add] at added

/-- A connection adds one edge to the others. -/
theorem edges_connect (connections : Connections) (source target : String) (output : Nat) (input : UInt32) :
    (connections.connect source output target input).edges.Perm
      (⟨source, output, target, input⟩ :: connections.edges) := by
  have grown := (connections.outputs.entries_insert_perm source (addTarget { node := target, index := input } output
    ((connections.outputs.get? source).getD []))).flatMap_right fun entry => edgesOf entry.1 entry.2
  have before := (connections.outputs.entries_perm source).flatMap_right fun entry => edgesOf entry.1 entry.2
  have own : ((connections.outputs.get? source).toList.map (source, ·)).flatMap (fun entry => edgesOf entry.1 entry.2) =
      edgesOf source ((connections.outputs.get? source).getD []) := by
    cases connections.outputs.get? source <;> simp [edgesOf]
  rw [List.flatMap_append, own] at before
  rw [List.flatMap_cons] at grown
  refine grown.trans (((edgesOf_addTarget _ _ _ _).append_right _).trans ?_)
  exact before.symm.cons _

theorem inboundCount_connect (connections : Connections) (source target node : String) (output : Nat) (input : UInt32) :
    (connections.connect source output target input).inboundCount node =
      connections.inboundCount node + if target = node then 1 else 0 := by
  unfold inboundCount
  rw [((edges_connect connections source target output input).filter _).length_eq, List.filter_cons]
  split <;> simp_all

theorem inboundCount_eq_zero {connections : Connections} {node : String} :
    connections.inboundCount node = 0 ↔ ∀ edge ∈ connections.edges, edge.target ≠ node := by
  simp [inboundCount]

/-- Whether connections are listed for a node, or an edge leads to it. -/
def Mentions (connections : Connections) (node : String) : Prop :=
  node ∈ connections.outputs.keys ∨ ∃ edge ∈ connections.edges, edge.target = node

theorem forall_mentions {connections : Connections} {property : String → Prop} :
    (∀ node, connections.Mentions node → property node) ↔
      (∀ source ∈ connections.outputs.keys, property source) ∧ ∀ edge ∈ connections.edges, property edge.target := by
  refine ⟨fun all => ⟨fun source listed => all source (.inl listed),
    fun edge member => all edge.target (.inr ⟨edge, member, rfl⟩)⟩, ?_⟩
  rintro ⟨sources, targets⟩ node (listed | ⟨edge, member, rfl⟩)
  · exact sources node listed
  · exact targets edge member

theorem mentions_source {connections : Connections} {edge : Edge} (member : edge ∈ connections.edges) :
    connections.Mentions edge.source := by
  obtain ⟨⟨source, outputs⟩, listed, found⟩ := List.mem_flatMap.mp member
  exact .inl (List.mem_map.mpr ⟨(source, outputs), listed, (mem_edgesOf.mp found).1.symm⟩)

/-- Whether an edge leads from one node to another. -/
def Leads (connections : Connections) (source target : String) : Prop :=
  ∃ edge ∈ connections.edges, edge.source = source ∧ edge.target = target

/-- Whether a node is reached from another one by following edges. -/
def Reaches (connections : Connections) : String → String → Prop := Relation.ReflTransGen connections.Leads

theorem Leads.connect {connections : Connections} {first second : String} (leads : connections.Leads first second)
    (source target : String) (output : Nat) (input : UInt32) :
    (connections.connect source output target input).Leads first second := by
  obtain ⟨edge, member, ends⟩ := leads
  exact ⟨edge, mem_edges_connect.mpr (.inr member), ends⟩

theorem leads_connect (connections : Connections) (source target : String) (output : Nat) (input : UInt32) :
    (connections.connect source output target input).Leads source target :=
  ⟨_, mem_edges_connect.mpr (.inl rfl), rfl, rfl⟩

theorem Reaches.connect {connections : Connections} {first last : String} (reaches : connections.Reaches first last)
    (source target : String) (output : Nat) (input : UInt32) :
    (connections.connect source output target input).Reaches first last :=
  Relation.ReflTransGen.mono (fun _ _ leads => Leads.connect leads source target output input) _ _ reaches

end WorkflowSynthesis.Connections
