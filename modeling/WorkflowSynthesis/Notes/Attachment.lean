import WorkflowSynthesis.Notes.Documentation
import WorkflowSynthesis.Workflow.Free
import WorkflowSynthesis.Workflow.Identifiers

/-!
Sticking notes to a workflow. The notes it already has are taken off first; the other nodes and the
edges between them stay as they are.
-/

namespace WorkflowSynthesis

namespace Attachment

def stickyNoteType : String := "n8n-nodes-base.stickyNote"

def withoutAnnotations (workflow : Workflow) : Workflow :=
  let stale := (workflow.nodes.filter fun node => !node.isExecutable).map (·.id)
  { workflow with
    nodes := workflow.executableNodes
    connections := stale.foldl Connections.removeNode workflow.connections }

def top (grid : Grid) (nodes : List Node) : Int :=
  nodes.foldl (fun top node => min top node.position.y) grid.origin.2.toInt

/-- The column of a note: that of its anchor, or one to the left of the grid. -/
def column (grid : Grid) (nodes : List Node) (anchor : Option String) : Int :=
  match anchor.bind fun id => nodes.find? (·.id = id) with
  | some node => node.position.x
  | none => grid.origin.1.toInt - grid.horizontalSpacing.toInt

def stacked (nodes : List Node) (x : Int) : Nat :=
  (nodes.filter fun node => !node.isExecutable && node.position.x = x).length

def step (settings : NoteSettings) (name : String) (note : Note) : Step where
  name
  nodeType := stickyNoteType
  role := .note
  key := "annotation"
  intent := note.category.key
  parameters := [
    ("content", .text note.content),
    ("height", .nat settings.noteHeight.toNat),
    ("width", .nat settings.noteWidth.toNat),
    ("color", .text note.color)]

structure State where
  nodes : List Node
  drawn : Nat := 0

/-- Sticks one note above the notes of its column, which stand above all other nodes. -/
def stick (grid : Grid) (settings : NoteSettings) (identifiers : Identifiers) (top : Int) (state : State)
    (note : Note) : State :=
  let x := column grid state.nodes note.anchor
  let level : Int := stacked state.nodes x + 1
  let name := Free.name (state.nodes.map Node.name) "Sticky Note"
  let (id, draws) := Free.identifier (state.nodes.map (·.id)) (identifiers.after state.drawn)
  let node : Node := {
    id
    position := { x, y := top - level * grid.verticalSpacing.toInt }
    step := step settings name note }
  { nodes := state.nodes ++ [node], drawn := state.drawn + draws }

end Attachment

def Workflow.attach (configuration : Configuration) (identifiers : Identifiers) (workflow : Workflow)
    (documentation : Documentation) : Workflow × Nat :=
  let bare := Attachment.withoutAnnotations workflow
  let top := Attachment.top configuration.grid bare.nodes
  let state := documentation.notes.foldl
    (Attachment.stick configuration.grid configuration.notes identifiers top) { nodes := bare.nodes }
  ({ bare with nodes := state.nodes }, state.drawn)

structure Annotated where
  workflow : Workflow
  documentation : Documentation
  drawn : Nat

def Workflow.annotate (configuration : Configuration) (identifiers : Identifiers) (workflow : Workflow)
    (context : DocumentationContext) : Annotated :=
  let documentation := Documentation.ofWorkflow configuration workflow context
  let (workflow, drawn) := workflow.attach configuration identifiers documentation
  { workflow, documentation, drawn }

end WorkflowSynthesis
