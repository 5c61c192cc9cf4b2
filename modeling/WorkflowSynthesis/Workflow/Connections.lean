import WorkflowSynthesis.Dictionary

/-! The connections of a workflow: for each source the targets of its outputs. -/

namespace WorkflowSynthesis

structure Target where
  node : String
  kind : String := "main"
  index : UInt32
  deriving DecidableEq

structure Edge where
  source : String
  output : Nat
  target : String
  input : UInt32
  deriving DecidableEq

/-- By source, the targets of each of its outputs. -/
structure Connections where
  outputs : Dictionary (List (List Target))

namespace Connections

def empty : Connections := ⟨.empty⟩

/-- Adds a target to one of the outputs, which are continued as far as need be. -/
def addTarget (target : Target) : Nat → List (List Target) → List (List Target)
  | 0, [] => [[target]]
  | 0, targets :: rest => (targets ++ [target]) :: rest
  | output + 1, [] => [] :: addTarget target output []
  | output + 1, targets :: rest => targets :: addTarget target output rest

def connect (connections : Connections) (source : String) (output : Nat) (target : String) (input : UInt32) :
    Connections :=
  let outputs := (connections.outputs.get? source).getD []
  ⟨connections.outputs.insert source (addTarget { node := target, index := input } output outputs)⟩

def targets (connections : Connections) (source : String) (output : Nat) : List Target :=
  (((connections.outputs.get? source).getD [])[output]?).getD []

def edgesOf (source : String) (outputs : List (List Target)) : List Edge :=
  outputs.zipIdx.flatMap fun (targets, output) =>
    targets.map fun target => { source, output, target := target.node, input := target.index }

def edges (connections : Connections) : List Edge :=
  connections.outputs.entries.flatMap fun (source, outputs) => edgesOf source outputs

def inboundCount (connections : Connections) (node : String) : Nat :=
  (connections.edges.filter (·.target = node)).length

def outgoing (connections : Connections) (node : String) : List Edge :=
  connections.edges.filter (·.source = node)

def removeNode (connections : Connections) (node : String) : Connections :=
  ⟨(connections.outputs.erase node).mapValues fun outputs => outputs.map (·.filter (·.node ≠ node))⟩

def size (connections : Connections) : Nat := connections.edges.length

def isEmpty (connections : Connections) : Bool := connections.edges.isEmpty

end Connections

end WorkflowSynthesis
