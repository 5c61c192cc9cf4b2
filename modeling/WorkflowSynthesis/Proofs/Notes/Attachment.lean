import Mathlib.Data.List.Forall2
import WorkflowSynthesis.Notes.Attachment
import WorkflowSynthesis.Proofs.Workflow.Free

/-!
What sticking notes to a workflow adds to it: a node for every note, in their order and behind all other nodes, each
one under an identifier and a name that no other node has.
-/

namespace WorkflowSynthesis

theorem Node.isExecutable_eq_false_iff {node : Node} : node.isExecutable = false ↔ node.role = .note := by
  simp [isExecutable, Role.isExecutable]

namespace Workflow

variable {workflow : Workflow} {node : Node}

/-- What does not run is an annotation. -/
theorem filter_not_isExecutable (workflow : Workflow) :
    workflow.nodes.filter (fun node => !node.isExecutable) = workflow.withRole .note := by
  refine List.filter_congr fun node _ => ?_
  rw [Bool.eq_iff_iff, Bool.not_eq_true', Node.isExecutable_eq_false_iff, decide_eq_true_eq]

/-- A node that does not look like any annotation runs. -/
theorem isExecutable_of_not_mem {α : Type} (view : Node → α) (member : node ∈ workflow.nodes)
    (fresh : view node ∉ (workflow.withRole .note).map view) : node.isExecutable = true := by
  by_contra stands
  have isNote : node.role = .note := Node.isExecutable_eq_false_iff.mp (Bool.not_eq_true _ ▸ stands)
  exact fresh (List.mem_map_of_mem (List.mem_filter.mpr ⟨member, decide_eq_true isNote⟩))

end Workflow

namespace Attachment

variable {settings : NoteSettings} {identifiers : Identifiers}

/-- Nodes behind others that show notes, under identifiers of a source and names with numbers. -/
structure Stuck (settings : NoteSettings) (identifiers : Identifiers) (before added : List Node) (notes : List Note) :
    Prop where
  shown : List.Forall₂ (fun node note => node.step = step settings node.name note) added notes
  drawn : ∀ node ∈ added, ∃ index, node.id = identifiers index ∨
    ∃ number, node.id = Free.numbered (identifiers index) "-" number
  nodup_ids : (added.map (·.id)).Nodup
  new_ids : ∀ node ∈ added, node.id ∉ before.map (·.id)
  numbered : ∀ node ∈ added, node.name = "Sticky Note" ∨
    ∃ number, number ≤ before.length + notes.length + 1 ∧ node.name = Free.numbered "Sticky Note" " " number
  nodup_names : (added.map Node.name).Nodup
  new_names : ∀ node ∈ added, node.name ∉ before.map Node.name

namespace Stuck

theorem nil (before : List Node) : Stuck settings identifiers before [] [] where
  shown := .nil
  drawn node member := by cases member
  nodup_ids := .nil
  new_ids node member := by cases member
  numbered node member := by cases member
  nodup_names := .nil
  new_names node member := by cases member

/-- What is new behind one node more is new behind the others, and differs from that node. -/
theorem new_of_append {α : Type} {view : Node → α} {before added : List Node} {node : Node}
    (new : ∀ other ∈ added, view other ∉ (before ++ [node]).map view) :
    view node ∉ added.map view ∧ ∀ other ∈ added, view other ∉ before.map view := by
  simp only [List.map_append, List.map_singleton, List.mem_append, List.mem_singleton, not_or] at new
  refine ⟨fun member => ?_, fun other listed => (new other listed).1⟩
  obtain ⟨other, listed, same⟩ := List.mem_map.mp member
  exact (new other listed).2 same

theorem cons {before added : List Node} {notes : List Note} {node : Node} {note : Note} (count : Nat)
    (shown : node.step = step settings node.name note)
    (id : node.id = (Free.identifier (before.map (·.id)) (identifiers.after count)).1)
    (named : node.name = Free.name (before.map Node.name) "Sticky Note")
    (stuck : Stuck settings identifiers (before ++ [node]) added notes) :
    Stuck settings identifiers before (node :: added) (note :: notes) := by
  obtain ⟨ownId, newIds⟩ := new_of_append stuck.new_ids
  obtain ⟨ownName, newNames⟩ := new_of_append stuck.new_names
  constructor
  · exact .cons shown stuck.shown
  · refine List.forall_mem_cons.mpr ⟨?_, stuck.drawn⟩
    obtain ⟨index, own⟩ := Free.identifier_eq (before.map (·.id)) (identifiers.after count)
    rw [id]
    exact ⟨count + index, own⟩
  · exact List.nodup_cons.mpr ⟨ownId, stuck.nodup_ids⟩
  · refine List.forall_mem_cons.mpr ⟨?_, newIds⟩
    rw [id]
    exact Free.identifier_not_mem _ _
  · refine List.forall_mem_cons.mpr ⟨?_, fun other listed => ?_⟩
    · rw [named]
      refine (Free.name_eq (before.map Node.name) "Sticky Note").imp_right ?_
      rintro ⟨number, _, most, same⟩
      rw [List.length_map] at most
      exact ⟨number, by rw [List.length_cons]; omega, same⟩
    · refine (stuck.numbered other listed).imp_right ?_
      rintro ⟨number, most, same⟩
      rw [List.length_append, List.length_singleton] at most
      exact ⟨number, by rw [List.length_cons]; omega, same⟩
  · exact List.nodup_cons.mpr ⟨ownName, stuck.nodup_names⟩
  · refine List.forall_mem_cons.mpr ⟨?_, newNames⟩
    rw [named]
    exact Free.name_not_mem _ _

end Stuck

/-- The node of the next note. -/
def noteNode (grid : Grid) (settings : NoteSettings) (identifiers : Identifiers) (top : Int) (state : State)
    (note : Note) : Node where
  id := (Free.identifier (state.nodes.map (·.id)) (identifiers.after state.drawn)).1
  position :=
    let x := column grid state.nodes note.anchor
    { x, y := top - (stacked state.nodes x + 1 : Int) * grid.verticalSpacing.toInt }
  step := step settings (Free.name (state.nodes.map Node.name) "Sticky Note") note

theorem stick_eq (grid : Grid) (settings : NoteSettings) (identifiers : Identifiers) (top : Int) (state : State)
    (note : Note) : stick grid settings identifiers top state note = {
      nodes := state.nodes ++ [noteNode grid settings identifiers top state note]
      drawn := state.drawn + (Free.identifier (state.nodes.map (·.id)) (identifiers.after state.drawn)).2 } := by
  unfold stick noteNode
  generalize Free.identifier _ _ = drawn
  rfl

theorem nodes_stick (grid : Grid) (settings : NoteSettings) (identifiers : Identifiers) (top : Int) (state : State)
    (note : Note) : (stick grid settings identifiers top state note).nodes =
      state.nodes ++ [noteNode grid settings identifiers top state note] := by
  rw [stick_eq]

theorem id_noteNode (grid : Grid) (settings : NoteSettings) (identifiers : Identifiers) (top : Int) (state : State)
    (note : Note) : (noteNode grid settings identifiers top state note).id =
      (Free.identifier (state.nodes.map (·.id)) (identifiers.after state.drawn)).1 := by
  rw [noteNode]

/-- Sticking notes one after another adds a node for each. -/
theorem stuck_foldl (grid : Grid) (settings : NoteSettings) (identifiers : Identifiers) (top : Int) (state : State)
    (notes : List Note) : ∃ added,
      (notes.foldl (stick grid settings identifiers top) state).nodes = state.nodes ++ added ∧
        Stuck settings identifiers state.nodes added notes := by
  induction notes generalizing state with
  | nil => exact ⟨[], (List.append_nil _).symm, .nil _⟩
  | cons note rest ih =>
    obtain ⟨added, nodes, stuck⟩ := ih (stick grid settings identifiers top state note)
    rw [nodes_stick] at nodes stuck
    have id := id_noteNode grid settings identifiers top state note
    refine ⟨noteNode grid settings identifiers top state note :: added, ?_, .cons state.drawn rfl id rfl stuck⟩
    rw [List.foldl_cons, nodes, List.append_assoc, List.singleton_append]

/-- A workflow without annotations stays as it is. -/
theorem withoutAnnotations_eq {workflow : Workflow} (bare : ∀ node ∈ workflow.nodes, node.isExecutable = true) :
    withoutAnnotations workflow = workflow := by
  have idle : (workflow.nodes.filter fun node => !node.isExecutable) = [] :=
    List.filter_eq_nil_iff.mpr fun node member => by simp [bare node member]
  have all : workflow.executableNodes = workflow.nodes := List.filter_eq_self.mpr bare
  rw [withoutAnnotations, idle, all]
  rfl

end Attachment

namespace Workflow

/-- The workflow with further nodes. -/
def withNotes (workflow : Workflow) (notes : List Node) : Workflow := { workflow with nodes := workflow.nodes ++ notes }

/-- Sticking notes to a workflow takes off those it has, and otherwise only adds nodes for the notes. -/
theorem exists_attach_eq (configuration : Configuration) (identifiers : Identifiers) (workflow : Workflow)
    (documentation : Documentation) : ∃ notes,
      (workflow.attach configuration identifiers documentation).1 =
        (Attachment.withoutAnnotations workflow).withNotes notes ∧
          Attachment.Stuck configuration.notes identifiers workflow.executableNodes notes documentation.notes := by
  obtain ⟨notes, nodes, stuck⟩ := Attachment.stuck_foldl configuration.grid configuration.notes identifiers
    (Attachment.top configuration.grid (Attachment.withoutAnnotations workflow).nodes)
    { nodes := (Attachment.withoutAnnotations workflow).nodes } documentation.notes
  refine ⟨notes, ?_, stuck⟩
  unfold attach withNotes
  dsimp only at nodes ⊢
  rw [nodes]

theorem documentation_annotate (configuration : Configuration) (identifiers : Identifiers) (workflow : Workflow)
    (context : DocumentationContext) : (workflow.annotate configuration identifiers context).documentation =
      Documentation.ofWorkflow configuration workflow context := rfl

end Workflow

end WorkflowSynthesis
