import WorkflowSynthesis.Proofs.Notes.Replacement
import WorkflowSynthesis.Proofs.Workflow.Layout

/-!
Where notes stand. Each is put on a level of its own above those of its column, and the lowest level lies above all other
nodes and the origin of the grid, so that no two notes share a place.
-/

namespace WorkflowSynthesis

namespace Attachment

section Top

theorem foldl_min_le_start (nodes : List Node) (start : Int) :
    nodes.foldl (fun top node => min top node.position.y) start ≤ start := by
  induction nodes generalizing start with
  | nil => exact Int.le_refl start
  | cons node rest ih => exact Int.le_trans (ih _) (Int.min_le_left _ _)

theorem foldl_min_le_of_mem {nodes : List Node} {node : Node} (member : node ∈ nodes) (start : Int) :
    nodes.foldl (fun top node => min top node.position.y) start ≤ node.position.y := by
  induction nodes generalizing start with
  | nil => cases member
  | cons first rest ih =>
    rw [List.foldl_cons]
    rcases List.mem_cons.mp member with rfl | later
    · exact Int.le_trans (foldl_min_le_start rest _) (Int.min_le_right _ _)
    · exact ih later _

end Top

/-- The notes among some nodes. -/
def notesOf (nodes : List Node) : List Node := nodes.filter fun node => !node.isExecutable

theorem stacked_append (nodes : List Node) (node : Node) (x : Int) :
    stacked (nodes ++ [node]) x =
      stacked nodes x + if !node.isExecutable && node.position.x = x then 1 else 0 := by
  rw [stacked, stacked, List.filter_append, List.length_append, List.filter_cons, List.filter_nil]
  split <;> rfl

/-- Every note stands on a level above the top, on none beyond the number of notes in its column, and no two notes stand
on the same one. -/
structure Piled (grid : Grid) (top : Int) (nodes : List Node) : Prop where
  level : ∀ note ∈ notesOf nodes, ∃ level : Nat, 1 ≤ level ∧ level ≤ stacked nodes note.position.x ∧
    note.position.y = top - level * grid.verticalSpacing.toInt
  distinct : ((notesOf nodes).map (·.position)).Nodup

namespace Piled

variable {grid : Grid} {top : Int} {nodes : List Node}

/-- Without notes there is nothing to tell apart. -/
theorem start (bare : ∀ node ∈ nodes, node.isExecutable = true) : Piled grid top nodes := by
  have unnoted : notesOf nodes = [] := List.filter_eq_nil_iff.mpr fun node member => by simp [bare node member]
  refine ⟨fun note member => ?_, ?_⟩
  · rw [unnoted] at member
    cases member
  · rw [unnoted]
    exact .nil

/-- A note more, on the level behind the last one of its column. -/
theorem add (piled : Piled grid top nodes) (accepted : grid.check = .ok ()) {note : Node}
    (isNote : note.isExecutable = false)
    (placed : note.position.y = top - (stacked nodes note.position.x + 1 : Int) * grid.verticalSpacing.toInt) :
    Piled grid top (nodes ++ [note]) := by
  have notes : notesOf (nodes ++ [note]) = notesOf nodes ++ [note] := by
    simp [notesOf, isNote]
  have own : stacked (nodes ++ [note]) note.position.x = stacked nodes note.position.x + 1 := by
    simp [stacked_append, isNote]
  constructor
  · rw [notes, List.forall_mem_append, List.forall_mem_singleton]
    refine ⟨fun old member => ?_, stacked nodes note.position.x + 1, Nat.le_add_left _ _, own.ge, ?_⟩
    · obtain ⟨level, least, most, stands⟩ := piled.level old member
      exact ⟨level, least, Nat.le_trans most (stacked_append nodes note _ ▸ Nat.le_add_right _ _), stands⟩
    · rw [placed]
      push_cast
      rfl
  · rw [notes, List.map_append, List.map_singleton, List.nodup_append]
    refine ⟨piled.distinct, List.nodup_singleton _, ?_⟩
    rintro _ taken _ new rfl
    rw [List.mem_singleton] at new
    obtain ⟨old, member, same⟩ := List.mem_map.mp taken
    obtain ⟨level, -, most, stands⟩ := piled.level old member
    -- In one column the new level lies beyond all others, and levels are told apart by their heights.
    have row : (level : Int) * grid.verticalSpacing.toInt =
        (stacked nodes note.position.x + 1 : Int) * grid.verticalSpacing.toInt := by
      rw [same, new, placed] at stands
      exact (Int.sub_right_inj _).mp stands.symm
    have levels := Int.eq_of_mul_eq_mul_right (Int.ne_of_gt (Grid.spacings_of_check accepted).2) row
    rw [same, new] at most
    omega

theorem foldl (accepted : grid.check = .ok ()) (settings : NoteSettings) (identifiers : Identifiers) {state : State}
    (piled : Piled grid top state.nodes) (notes : List Note) :
    Piled grid top (notes.foldl (stick grid settings identifiers top) state).nodes := by
  induction notes generalizing state with
  | nil => exact piled
  | cons note rest ih =>
    rw [List.foldl_cons]
    refine ih ?_
    rw [nodes_stick]
    refine piled.add accepted ?_ ?_
    · rw [noteNode]
      rfl
    · rw [noteNode]

/-- Notes lie above whatever the top lies above. -/
theorem y_lt (piled : Piled grid top nodes) (accepted : grid.check = .ok ()) {note : Node} (member : note ∈ notesOf nodes)
    {y : Int} (below : top ≤ y) : note.position.y < y := by
  obtain ⟨level, least, -, stands⟩ := piled.level note member
  have raised : 0 < (level : Int) * grid.verticalSpacing.toInt :=
    Int.mul_pos (Int.natCast_pos.mpr least) (Grid.spacings_of_check accepted).2
  omega

end Piled

end Attachment

namespace Workflow

/-- Every note has a place of its own, above the origin of the grid and above all nodes but notes. -/
theorem positions_attach {configuration : Configuration} (accepted : configuration.grid.check = .ok ())
    (identifiers : Identifiers) (workflow : Workflow) (documentation : Documentation) :
    let attached := (workflow.attach configuration identifiers documentation).1
    let notes := attached.withRole .note
    notes.length = documentation.notes.length ∧ (notes.map (·.position)).Nodup ∧
      ∀ note ∈ notes, note.position.y < configuration.grid.origin.2.toInt ∧
        ∀ node ∈ attached.executableNodes, note.position.y < node.position.y := by
  intro attached notes
  obtain ⟨added, same, stuck⟩ := exists_attach_eq configuration identifiers workflow documentation
  have bare := isExecutable_withoutAnnotations workflow
  have kept : attached.executableNodes = (Attachment.withoutAnnotations workflow).nodes :=
    executableNodes_attach configuration identifiers workflow documentation
  have added_eq : notes = added := by
    simp only [notes, attached, same]
    exact Review.withRole_note_withNotes stuck bare
  have notes_eq : notes = Attachment.notesOf attached.nodes := (filter_not_isExecutable attached).symm
  have piled : Attachment.Piled configuration.grid
      (Attachment.top configuration.grid (Attachment.withoutAnnotations workflow).nodes) attached.nodes :=
    Attachment.Piled.foldl accepted configuration.notes identifiers (.start bare) documentation.notes
  refine ⟨added_eq ▸ stuck.shown.length_eq, notes_eq ▸ piled.distinct, fun note member => ⟨?_, fun node listed => ?_⟩⟩
  · exact piled.y_lt accepted (notes_eq ▸ member) (Attachment.foldl_min_le_start _ _)
  · rw [kept] at listed
    exact piled.y_lt accepted (notes_eq ▸ member) (Attachment.foldl_min_le_of_mem listed _)

/-- A node high above the grid. -/
def waiting : Node where
  id := "wait"
  position := { x := 400, y := -600 }
  step := { name := "Wait", nodeType := Step.passThroughType }

/-- The workflow with a note, and one node more in the column of another. -/
def crowded : Workflow := { noted with nodes := noted.nodes ++ [waiting] }

/-- Notes on nodes of one column, on one node, on no node, and on a node that is not there. -/
def heap : Documentation where
  notes := [some "send", some "wait", some "send", none, some "nowhere"].map fun anchor =>
    { anchor, category := .custom "remark", content := "Ask before changing.", color := "#FFFFFF" }
  description := ""

/-- All five notes stand apart, above the highest node. -/
theorem positions_attach_crowded :
    ∃ configuration, Configuration.standard = .ok configuration ∧ configuration.grid.check = .ok () ∧
      let notes := (crowded.attach configuration (fun _ => "note") heap).1.withRole .note
      notes.length = 5 ∧ (notes.map (·.position)).Nodup ∧ ∀ note ∈ notes, note.position.y < -600 := by
  obtain ⟨configuration, accepted⟩ := Configuration.exists_standard
  have grid := Configuration.grid_check_of_ofSettings accepted
  obtain ⟨count, distinct, above⟩ := positions_attach grid (fun _ => "note") crowded heap
  refine ⟨configuration, accepted, grid, count, distinct, fun note member => ?_⟩
  have highest : waiting ∈ (crowded.attach configuration (fun _ => "note") heap).1.executableNodes := by
    rw [executableNodes_attach]
    exact List.mem_filter.mpr ⟨List.mem_append_right _ (List.mem_singleton_self _), rfl⟩
  exact (above note member).2 waiting highest

end Workflow

end WorkflowSynthesis
