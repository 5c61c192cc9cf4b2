/-! Findings that do not stop a workflow from being made. -/

namespace WorkflowSynthesis

inductive DiagnosticKind where
  | unclassifiedInput
  | defaultAction
  | unresolvedKey
  | unusedOverride
  deriving DecidableEq

namespace DiagnosticKind

def all : List DiagnosticKind := [.unclassifiedInput, .defaultAction, .unresolvedKey, .unusedOverride]

def name : DiagnosticKind → String
  | .unclassifiedInput => "unclassifiedInput"
  | .defaultAction => "defaultAction"
  | .unresolvedKey => "unresolvedKey"
  | .unusedOverride => "unusedOverride"

end DiagnosticKind

structure Diagnostic where
  kind : DiagnosticKind
  message : String
  deriving DecidableEq

def Diagnostic.line (diagnostic : Diagnostic) : String :=
  "[" ++ diagnostic.kind.name ++ "] " ++ diagnostic.message

end WorkflowSynthesis
