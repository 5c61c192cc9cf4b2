import WorkflowSynthesis.Notes.Documentation

/-! Documentation as JSON. A category is written by its name, which need not be its key. -/

namespace WorkflowSynthesis

def NoteCategory.toJson : NoteCategory → Json
  | .start => .text "start"
  | .decision => .text "decision"
  | .apiCall => .text "apiCall"
  | .dataTransform => .text "dataTransform"
  | .errorHandling => .text "errorHandling"
  | .custom key => .object [("custom", .text key)]

def Note.toJson (note : Note) : Json := .object [
  ("anchor", .optional .text note.anchor),
  ("category", note.category.toJson),
  ("content", .text note.content),
  ("color", .text note.color)]

def Documentation.toJson (documentation : Documentation) : Json := .object [
  ("notes", .list Note.toJson documentation.notes),
  ("description", .text documentation.description)]

end WorkflowSynthesis
