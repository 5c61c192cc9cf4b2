import WorkflowSynthesis.Proofs.Workflow.Edges

/-!
What is left of connections when nodes are taken away: the edges that touch none of them, in their order. Where a node
is not mentioned, nothing changes.
-/

namespace WorkflowSynthesis.Connections

/-- The edges of one source whose targets are thinned out. -/
theorem edgesOf_filter (source node : String) (outputs : List (List Target)) :
    edgesOf source (outputs.map (·.filter (·.node ≠ node))) = (edgesOf source outputs).filter (·.target ≠ node) := by
  unfold edgesOf
  rw [List.zipIdx_map, List.flatMap_map, List.filter_flatMap]
  refine List.flatMap_congr fun part _ => ?_
  rw [List.filter_map]
  rfl

/-- All edges of a source have that source. -/
theorem source_of_mem_edgesOf {source : String} {outputs : List (List Target)} {edge : Edge}
    (member : edge ∈ edgesOf source outputs) : edge.source = source :=
  (mem_edgesOf.mp member).1

theorem edges_removeNode (connections : Connections) (node : String) :
    (connections.removeNode node).edges =
      connections.edges.filter fun edge => edge.source ≠ node ∧ edge.target ≠ node := by
  obtain ⟨⟨entries, ascending⟩⟩ := connections
  unfold removeNode edges Dictionary.erase Dictionary.mapValues
  dsimp only
  rw [List.flatMap_map, List.filter_flatMap]
  clear ascending
  induction entries with
  | nil => rfl
  | cons entry rest ih =>
    obtain ⟨source, outputs⟩ := entry
    by_cases same : source = node
    · have dropped : (edgesOf source outputs).filter (fun edge => edge.source ≠ node ∧ edge.target ≠ node) = [] :=
        List.filter_eq_nil_iff.mpr fun edge member => by simp [source_of_mem_edgesOf member, same]
      rw [List.filter_cons_of_neg (by simp [same]), ih, List.flatMap_cons, dropped, List.nil_append]
    · have kept : (edgesOf source outputs).filter (fun edge => edge.source ≠ node ∧ edge.target ≠ node) =
          edgesOf source (outputs.map (·.filter (·.node ≠ node))) := by
        rw [edgesOf_filter]
        exact List.filter_congr fun edge member => by simp [source_of_mem_edgesOf member, same]
      rw [List.filter_cons_of_pos (by simp [same]), List.flatMap_cons, ih, List.flatMap_cons, kept]

theorem edges_foldl_removeNode (stale : List String) (connections : Connections) :
    (stale.foldl removeNode connections).edges =
      connections.edges.filter fun edge => edge.source ∉ stale ∧ edge.target ∉ stale := by
  induction stale generalizing connections with
  | nil => exact (List.filter_eq_self.mpr fun edge _ => by simp).symm
  | cons node rest ih =>
    rw [List.foldl_cons, ih, edges_removeNode, List.filter_filter]
    refine List.filter_congr fun edge _ => ?_
    simp only [List.mem_cons, not_or, Bool.decide_and, decide_not]
    ac_rfl

theorem keys_removeNode (connections : Connections) (node : String) :
    (connections.removeNode node).outputs.keys = connections.outputs.keys.filter (· ≠ node) := by
  simp only [removeNode, Dictionary.keys, Dictionary.erase, Dictionary.mapValues, List.map_map, List.filter_map]
  rfl

/-- What is mentioned after a node was taken away was mentioned before, and is not that node. -/
theorem Mentions.of_removeNode {connections : Connections} {node id : String}
    (mentioned : (connections.removeNode node).Mentions id) : connections.Mentions id ∧ id ≠ node := by
  rcases mentioned with source | ⟨edge, member, rfl⟩
  · rw [keys_removeNode, List.mem_filter, decide_eq_true_eq] at source
    exact ⟨.inl source.1, source.2⟩
  · rw [edges_removeNode, List.mem_filter, decide_eq_true_eq] at member
    exact ⟨.inr ⟨edge, member.1, rfl⟩, member.2.2⟩

theorem Mentions.of_foldl_removeNode {stale : List String} {connections : Connections} {id : String}
    (mentioned : (stale.foldl removeNode connections).Mentions id) : connections.Mentions id ∧ id ∉ stale := by
  induction stale generalizing connections with
  | nil => exact ⟨mentioned, List.not_mem_nil⟩
  | cons node rest ih =>
    obtain ⟨still, other⟩ := ih mentioned
    obtain ⟨before, different⟩ := still.of_removeNode
    exact ⟨before, List.not_mem_cons_of_ne_of_not_mem different other⟩

/-- Taking away a node that is not mentioned changes nothing. -/
theorem removeNode_eq {connections : Connections} {node : String} (absent : ¬connections.Mentions node) :
    connections.removeNode node = connections := by
  obtain ⟨outputs⟩ := connections
  refine congrArg Connections.mk (Dictionary.eq_of_entries_eq ?_)
  have kept : outputs.entries.filter (·.1 ≠ node) = outputs.entries :=
    List.filter_eq_self.mpr fun entry member => decide_eq_true fun same =>
      absent (.inl (List.mem_map.mpr ⟨entry, member, same⟩))
  simp only [Dictionary.mapValues, Dictionary.erase, kept]
  refine (List.map_congr_left fun entry member => ?_).trans (List.map_id _)
  obtain ⟨source, lists⟩ := entry
  refine congrArg (Prod.mk source) ?_
  refine (List.map_congr_left fun targets listed => ?_).trans (List.map_id _)
  refine List.filter_eq_self.mpr fun target aimed => decide_eq_true fun same => absent (.inr ?_)
  obtain ⟨output, found⟩ := List.mem_iff_getElem?.mp listed
  refine ⟨⟨source, output, target.node, target.index⟩, ?_, same⟩
  refine List.mem_flatMap.mpr ⟨(source, lists), member, mem_edgesOf.mpr ⟨rfl, target, ?_, rfl, rfl⟩⟩
  rw [found]
  exact aimed

theorem foldl_removeNode_eq {stale : List String} {connections : Connections}
    (absent : ∀ node ∈ stale, ¬connections.Mentions node) : stale.foldl removeNode connections = connections := by
  induction stale with
  | nil => rfl
  | cons node rest ih =>
    obtain ⟨first, others⟩ := List.forall_mem_cons.mp absent
    rw [List.foldl_cons, removeNode_eq first]
    exact ih others

end WorkflowSynthesis.Connections
