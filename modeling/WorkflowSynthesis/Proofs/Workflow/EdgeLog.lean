import WorkflowSynthesis.Proofs.Text.Bytes
import WorkflowSynthesis.Proofs.Workflow.Removal

/-!
Connections against a plain log of edges. At each output of each source the targets are those of the log, in its
order, and the edges come in order of source and output. Both together say that the edges are the log, sorted stably.
-/

namespace WorkflowSynthesis

namespace Connections

section Targets

variable (connections : Connections)

theorem targets_removeNode (node source : String) (output : Nat) :
    (connections.removeNode node).targets source output =
      if source = node then [] else (connections.targets source output).filter (·.node ≠ node) := by
  simp only [targets, removeNode, Dictionary.get?_mapValues, Dictionary.get?_erase]
  split
  · rfl
  · cases connections.outputs.get? source with
    | none => rfl
    | some outputs =>
      simp only [Option.map_some, Option.getD_some, List.getElem?_map]
      cases outputs[output]? <;> rfl

theorem outgoing_eq_edgesOf (source : String) :
    connections.outgoing source = edgesOf source ((connections.outputs.get? source).getD []) := by
  have own : ∀ entries : List (String × List (List Target)),
      (entries.flatMap fun entry => edgesOf entry.1 entry.2).filter (·.source = source) =
        (entries.filter (·.1 = source)).flatMap fun entry => edgesOf entry.1 entry.2 := by
    intro entries
    induction entries with
    | nil => rfl
    | cons entry rest ih =>
      rw [List.flatMap_cons, List.filter_append, ih]
      by_cases same : entry.1 = source
      · rw [List.filter_cons_of_pos (by simpa using same), List.flatMap_cons]
        refine congrArg (· ++ _) (List.filter_eq_self.mpr fun edge member => ?_)
        simpa [source_of_mem_edgesOf member] using same
      · rw [List.filter_cons_of_neg (by simpa using same)]
        refine congrArg (· ++ _) (List.filter_eq_nil_iff.mpr fun edge member => ?_)
        simpa [source_of_mem_edgesOf member] using same
  rw [outgoing, edges, own, Dictionary.filter_entries]
  cases connections.outputs.get? source <;> simp [edgesOf]

theorem filter_edgesOf (source : String) (outputs : List (List Target)) (output : Nat) :
    (edgesOf source outputs).filter (·.output = output) =
      ((outputs[output]?).getD []).map fun target => ⟨source, output, target.node, target.index⟩ := by
  have shifted : ∀ (outputs : List (List Target)) (first : Nat),
      ((outputs.zipIdx first).flatMap fun part => part.1.map fun target =>
        (⟨source, part.2, target.node, target.index⟩ : Edge)).filter (·.output = output) =
        if first ≤ output then
          ((outputs[output - first]?).getD []).map fun target => ⟨source, output, target.node, target.index⟩
        else [] := by
    intro outputs
    induction outputs with
    | nil => simp
    | cons targets rest ih =>
      intro first
      rw [List.zipIdx_cons, List.flatMap_cons, List.filter_append, ih, List.filter_map]
      by_cases here : first = output
      · subst here
        simp [Function.comp_def]
      · by_cases below : first ≤ output
        · have later : output - first = output - (first + 1) + 1 := by omega
          simp [Function.comp_def, here, below, later, show first + 1 ≤ output by omega]
        · simp [Function.comp_def, here, below, show ¬first + 1 ≤ output by omega]
  simpa [edgesOf] using shifted outputs 0

/-- The edges from an output of a source go to its targets. -/
theorem filter_edges (source : String) (output : Nat) :
    connections.edges.filter (fun edge => edge.source = source ∧ edge.output = output) =
      (connections.targets source output).map fun target => ⟨source, output, target.node, target.index⟩ := by
  have parts : connections.edges.filter (fun edge => edge.source = source ∧ edge.output = output) =
      (connections.outgoing source).filter (·.output = output) := by
    rw [outgoing, List.filter_filter]
    exact List.filter_congr fun edge _ => by rw [Bool.decide_and, Bool.and_comm]
  rw [parts, outgoing_eq_edgesOf, filter_edgesOf, targets]

end Targets

end Connections

section Order

variable {α : Type} {order : α → α → Bool}

/-- Two lists in order are the same if each class of equals stands in the same order in both. -/
theorem eq_of_pairwise_of_filter (reflexive : ∀ item, order item item = true) {left right : List α}
    (ascending : left.Pairwise fun first second => order first second = true)
    (rising : right.Pairwise fun first second => order first second = true)
    (classes : ∀ item, left.filter (fun other => order item other && order other item) =
      right.filter fun other => order item other && order other item) : left = right := by
  have counterpart : ∀ {first second : List α} {item : α},
      first.filter (fun other => order item other && order other item) =
        second.filter (fun other => order item other && order other item) →
      item ∈ first → item ∈ second := by
    intro first second item same member
    have own : item ∈ first.filter fun other => order item other && order other item := by
      simp [member, reflexive]
    rw [same] at own
    exact (List.mem_filter.mp own).1
  induction left generalizing right with
  | nil =>
    cases right with
    | nil => rfl
    | cons item rest => exact absurd (counterpart (classes item).symm List.mem_cons_self) List.not_mem_nil
  | cons item rest ih =>
    cases right with
    | nil => exact absurd (counterpart (classes item) List.mem_cons_self) List.not_mem_nil
    | cons head tail =>
      obtain ⟨above, ordered⟩ := List.pairwise_cons.mp ascending
      obtain ⟨beyond, arranged⟩ := List.pairwise_cons.mp rising
      -- Each head is in the other list, so neither is above the other one.
      have headAbove : order item head = true := by
        rcases List.mem_cons.mp (counterpart (classes head).symm List.mem_cons_self) with same | later
        · exact same ▸ reflexive head
        · exact above head later
      have itemAbove : order head item = true := by
        rcases List.mem_cons.mp (counterpart (classes item) List.mem_cons_self) with same | later
        · exact same ▸ reflexive item
        · exact beyond item later
      have same : item = head := by
        have own := classes item
        rw [List.filter_cons_of_pos (by simp [reflexive]), List.filter_cons_of_pos (by simp [headAbove, itemAbove])] at own
        exact (List.cons.inj own).1
      subst same
      refine congrArg (item :: ·) (ih ordered arranged fun other => ?_)
      have own := classes other
      rw [List.filter_cons, List.filter_cons] at own
      split at own
      · exact (List.cons.inj own).2
      · exact own

/-- Sorting keeps the order of equals. -/
theorem filter_mergeSort (transitive : ∀ first second third, order first second = true → order second third = true →
      order first third = true) (total : ∀ first second, (order first second || order second first) = true)
    {keep : α → Bool} (equals : ∀ first second, keep first = true → keep second = true → order first second = true)
    (items : List α) : (items.mergeSort order).filter keep = items.filter keep := by
  have level : (items.filter keep).Pairwise fun first second => order first second = true := by
    refine List.pairwise_of_forall_mem_list fun first member second other => ?_
    exact equals first second (List.mem_filter.mp member).2 (List.mem_filter.mp other).2
  have kept := (List.sublist_mergeSort transitive total level List.filter_sublist).filter keep
  rw [List.filter_filter] at kept
  simp only [Bool.and_self] at kept
  exact (kept.eq_of_length ((List.mergeSort_perm items order).filter keep).length_eq.symm).symm

end Order

namespace Edge

/-- Where an edge ends, as its source lists it. -/
def aim (edge : Edge) : Target where
  node := edge.target
  index := edge.input

/-- Whether an edge may stand before another one: sources by their bytes, and outputs of one source by number. -/
def precedes (first second : Edge) : Bool :=
  decide (Text.bytes first.source < Text.bytes second.source) ||
    (decide (first.source = second.source) && decide (first.output ≤ second.output))

theorem precedes_iff {first second : Edge} : first.precedes second = true ↔
    first.source < second.source ∨ (first.source = second.source ∧ first.output ≤ second.output) := by
  simp [precedes, Text.bytes_lt_bytes]

theorem precedes_trans (first second third : Edge) (left : first.precedes second = true)
    (right : second.precedes third = true) : first.precedes third = true := by
  rw [precedes_iff] at *
  rcases left with less | ⟨same, below⟩
  · rcases right with lesser | ⟨same, _⟩
    · exact .inl (String.lt_trans less lesser)
    · exact .inl (same ▸ less)
  · rcases right with less | ⟨again, beneath⟩
    · exact .inl (same ▸ less)
    · exact .inr ⟨same.trans again, Nat.le_trans below beneath⟩

theorem precedes_total (first second : Edge) : (first.precedes second || second.precedes first) = true := by
  rw [Bool.or_eq_true, precedes_iff, precedes_iff]
  by_cases same : first.source = second.source
  · rcases Nat.le_total first.output second.output with below | above
    · exact .inl (.inr ⟨same, below⟩)
    · exact .inr (.inr ⟨same.symm, above⟩)
  · by_cases less : first.source < second.source
    · exact .inl (.inl less)
    · exact .inr (.inl (Std.lt_of_le_of_ne (String.not_lt.mp less) (Ne.symm same)))

/-- Edges may stand on either side of each other if they leave the same output of the same source. -/
theorem precedes_both (first second : Edge) : (first.precedes second && second.precedes first) =
    decide (second.source = first.source ∧ second.output = first.output) := by
  rw [Bool.eq_iff_iff, Bool.and_eq_true, precedes_iff, precedes_iff, decide_eq_true_eq]
  constructor
  · rintro ⟨less | ⟨same, below⟩, greater | ⟨again, above⟩⟩
    · exact absurd greater (String.lt_asymm less)
    · exact absurd (again ▸ less) (String.lt_irrefl _)
    · exact absurd (same ▸ greater) (String.lt_irrefl _)
    · exact ⟨again, Nat.le_antisymm above below⟩
  · rintro ⟨same, level⟩
    exact ⟨.inr ⟨same.symm, level.ge⟩, .inr ⟨same, level.le⟩⟩

theorem precedes_refl (edge : Edge) : edge.precedes edge = true :=
  precedes_iff.mpr (.inr ⟨rfl, Nat.le_refl _⟩)

end Edge

namespace Connections

/-- The edges are in order of source and output. -/
theorem pairwise_edges (connections : Connections) :
    connections.edges.Pairwise fun first second => first.precedes second = true := by
  refine List.pairwise_flatMap.mpr ⟨fun entry _ => ?_, ?_⟩
  · refine List.pairwise_flatMap.mpr ⟨fun part _ => ?_, ?_⟩
    · refine List.pairwise_map.mpr (List.pairwise_of_forall fun first second => ?_)
      exact Edge.precedes_iff.mpr (.inr ⟨rfl, Nat.le_refl _⟩)
    · have places : (entry.2.zipIdx.map Prod.snd).Pairwise (· < ·) := by
        rw [List.zipIdx_map_snd]
        exact List.pairwise_lt_range'
      refine (List.pairwise_map.mp places).imp fun less first member second other => ?_
      obtain ⟨_, _, rfl⟩ := List.mem_map.mp member
      obtain ⟨_, _, rfl⟩ := List.mem_map.mp other
      exact Edge.precedes_iff.mpr (.inr ⟨rfl, Nat.le_of_lt less⟩)
  · refine connections.outputs.ascending.imp fun less first member second other => ?_
    rw [Edge.precedes_iff, source_of_mem_edgesOf member, source_of_mem_edgesOf other]
    exact .inl less

/-- A change of connections: one edge more, or one node less. -/
inductive Change where
  | connect (source : String) (output : Nat) (target : String) (input : UInt32)
  | removeNode (node : String)

def Change.apply (connections : Connections) : Change → Connections
  | .connect source output target input => connections.connect source output target input
  | .removeNode node => connections.removeNode node

/-- What a change does to a log: an edge at the end, or no more edge from or to a node. -/
def Change.record (log : List Edge) : Change → List Edge
  | .connect source output target input => log ++ [⟨source, output, target, input⟩]
  | .removeNode node => log.filter fun edge => edge.source ≠ node ∧ edge.target ≠ node

/-- The connections that changes make of none. -/
def afterChanges (changes : List Change) : Connections := changes.foldl Change.apply empty

def logOf (changes : List Change) : List Edge := changes.foldl Change.record []

/-- Whether a log has the targets of each output, in their order. -/
def Records (log : List Edge) (connections : Connections) : Prop :=
  ∀ source output, connections.targets source output =
    (log.filter fun edge => edge.source = source ∧ edge.output = output).map Edge.aim

theorem records_empty : Records [] empty := fun _ _ => rfl

/-- A change keeps connections and log together. -/
theorem Records.change {log : List Edge} {connections : Connections} (records : Records log connections)
    (change : Change) : Records (change.record log) (change.apply connections) := by
  intro other place
  have before := records other place
  cases change with
  | connect source output target input =>
    rw [Change.apply, Change.record, targets_connect, before, List.filter_append, List.map_append]
    by_cases here : other = source ∧ place = output
    · obtain ⟨rfl, rfl⟩ := here
      simp [Edge.aim]
    · have elsewhere : ¬(source = other ∧ output = place) := fun same => here ⟨same.1.symm, same.2.symm⟩
      rw [if_neg here, List.filter_cons_of_neg (by simpa using elsewhere), List.filter_nil, List.map_nil,
        List.append_nil]
  | removeNode node =>
    rw [Change.apply, Change.record, targets_removeNode, before, List.filter_map, List.filter_filter,
      List.filter_filter]
    split
    · next same =>
      subst same
      refine (List.map_eq_nil_iff.mpr (List.filter_eq_nil_iff.mpr fun edge _ => ?_)).symm
      simp +contextual
    · next different =>
      refine congrArg (List.map Edge.aim) (List.filter_congr fun edge _ => ?_)
      by_cases leaves : edge.source = other ∧ edge.output = place
      · obtain ⟨rfl, rfl⟩ := leaves
        by_cases aimed : edge.target = node <;> simp [Edge.aim, different, aimed]
      · simp [leaves]

/-- After any changes the log has the targets of each output. -/
theorem records_afterChanges (changes : List Change) : Records (logOf changes) (afterChanges changes) := by
  have run : ∀ (log : List Edge) (connections : Connections), Records log connections →
      Records (changes.foldl Change.record log) (changes.foldl Change.apply connections) := by
    induction changes with
    | nil => exact fun _ _ records => records
    | cons change rest ih => exact fun _ _ records => ih _ _ (records.change change)
  exact run [] empty records_empty

namespace Records

variable {log : List Edge} {connections : Connections}

theorem filter_edges (records : Records log connections) (source : String) (output : Nat) :
    connections.edges.filter (fun edge => edge.source = source ∧ edge.output = output) =
      log.filter fun edge => edge.source = source ∧ edge.output = output := by
  rw [connections.filter_edges, records, List.map_map]
  refine (List.map_congr_left fun edge member => ?_).trans (List.map_id _)
  rw [List.mem_filter, decide_eq_true_eq] at member
  obtain ⟨_, rfl, rfl⟩ := member
  rfl

/-- Of the edges with some property, those that connections have are those of the log, sorted. -/
theorem filter_edges_eq_mergeSort (records : Records log connections) (keep : Edge → Bool) :
    connections.edges.filter keep = (log.filter keep).mergeSort Edge.precedes := by
  refine eq_of_pairwise_of_filter Edge.precedes_refl (connections.pairwise_edges.filter keep)
    (List.pairwise_mergeSort Edge.precedes_trans Edge.precedes_total _) fun edge => ?_
  simp only [Edge.precedes_both]
  rw [filter_mergeSort Edge.precedes_trans Edge.precedes_total, List.filter_filter, List.filter_filter]
  · simp only [Bool.and_comm (decide _)]
    rw [← List.filter_filter, ← List.filter_filter, records.filter_edges]
  · intro first second own other
    rw [decide_eq_true_eq] at own other
    exact Edge.precedes_iff.mpr (.inr ⟨own.1.trans other.1.symm, (own.2.trans other.2.symm).le⟩)

theorem edges_eq_mergeSort (records : Records log connections) :
    connections.edges = log.mergeSort Edge.precedes := by
  have all := records.filter_edges_eq_mergeSort fun _ => true
  simpa using all

end Records

/-- Connections are a log of their edges that is sorted stably by source and output. -/
theorem afterChanges_refines_log (changes : List Change) :
    (afterChanges changes).edges = (logOf changes).mergeSort Edge.precedes ∧
      (∀ source output, (afterChanges changes).targets source output =
        ((logOf changes).filter fun edge => edge.source = source ∧ edge.output = output).map Edge.aim) ∧
      (∀ source, (afterChanges changes).outgoing source =
        ((logOf changes).filter (·.source = source)).mergeSort Edge.precedes) ∧
      (∀ node, (afterChanges changes).inboundCount node = (logOf changes).countP (·.target = node)) ∧
      (afterChanges changes).size = (logOf changes).length ∧
      (afterChanges changes).isEmpty = (logOf changes).isEmpty := by
  have records := records_afterChanges changes
  have sorted : (afterChanges changes).edges.Perm (logOf changes) :=
    records.edges_eq_mergeSort ▸ List.mergeSort_perm _ _
  refine ⟨records.edges_eq_mergeSort, records, ?_, ?_, sorted.length_eq, ?_⟩
  · intro source
    exact records.filter_edges_eq_mergeSort _
  · intro node
    rw [inboundCount, ← List.countP_eq_length_filter]
    exact sorted.countP_eq _
  · rw [isEmpty, Bool.eq_iff_iff, List.isEmpty_iff, List.isEmpty_iff]
    exact ⟨fun empty => List.nil_perm.mp (empty ▸ sorted), fun empty => List.perm_nil.mp (empty ▸ sorted)⟩

end Connections

end WorkflowSynthesis
