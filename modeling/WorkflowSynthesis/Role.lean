/-! The parts that nodes play in a workflow. -/

namespace WorkflowSynthesis

inductive Role where
  | trigger
  | action
  | condition
  | dataOp
  | errorHandler
  | note
  deriving DecidableEq

namespace Role

def all : List Role := [.trigger, .action, .condition, .dataOp, .errorHandler, .note]

def name : Role → String
  | .trigger => "trigger"
  | .action => "action"
  | .condition => "condition"
  | .dataOp => "dataOp"
  | .errorHandler => "errorHandler"
  | .note => "annotation"

def isExecutable (role : Role) : Bool := role != .note

def shortType (nodeType : String) : List Char := (nodeType.toList.reverse.takeWhile (· ≠ '.')).reverse

/-- The role that a node type suggests when nothing else is known about the node. -/
def ofNodeType (nodeType : String) : Role :=
  let short := shortType nodeType
  if short = "stickyNote".toList then .note
  else if short ∈ ["cron", "webhook", "scheduleTrigger"].map String.toList then .trigger
  else if short ∈ ["if", "filter", "switch"].map String.toList then .condition
  else if short ∈ ["set", "merge", "splitInBatches", "aggregate"].map String.toList then .dataOp
  else if "Trigger".toList.isSuffixOf short then .trigger
  else .action

end Role

end WorkflowSynthesis
