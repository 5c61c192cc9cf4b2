/-! The kinds of notes that are stuck to a workflow. -/

namespace WorkflowSynthesis

inductive NoteCategory where
  | start
  | decision
  | apiCall
  | dataTransform
  | errorHandling
  | custom (key : String)
  deriving DecidableEq

namespace NoteCategory

def key : NoteCategory → String
  | .start => "start"
  | .decision => "decision"
  | .apiCall => "api"
  | .dataTransform => "transform"
  | .errorHandling => "error"
  | .custom key => key

def ofKey (key : String) : NoteCategory :=
  if key = "start" then .start
  else if key = "decision" then .decision
  else if key = "api" then .apiCall
  else if key = "transform" then .dataTransform
  else if key = "error" then .errorHandling
  else .custom key

end NoteCategory

end WorkflowSynthesis
