import WorkflowSynthesis.Json.Writer
import WorkflowSynthesis.Settings.Writer
import WorkflowSynthesis.Workflow.Basic

/-! Workflows as JSON. Of a node, only what a runtime needs is written. -/

namespace WorkflowSynthesis

/-- Coordinates are written in 64 bits. -/
def Position.toJson (position : Position) : Json :=
  .array [.signed (.ofInt position.x), .signed (.ofInt position.y)]

def Target.toJson (target : Target) : Json :=
  .object [("node", .text target.node), ("type", .text target.kind), ("index", .nat target.index.toNat)]

def Connections.toJson (connections : Connections) : Json :=
  connections.outputs.toJson fun outputs =>
    .object [("main", .list (.list Target.toJson) outputs)]

/-- The members of a node for its step. Credentials and the error mode are left out where there are
none. -/
def Step.members (step : Step) : Members :=
  let credentials := step.credentials.toJson fun name => .object [("name", .text name)]
  [("name", .text step.name),
    ("type", .text step.nodeType),
    ("typeVersion", .real step.typeVersion),
    ("parameters", .object step.parameters)] ++
    (if step.credentials.entries.isEmpty then [] else [("credentials", credentials)]) ++
    step.onError.toList.map fun mode => ("onError", .text mode)

def Node.toJson (node : Node) : Json :=
  .object (("id", .text node.id) :: ("position", node.position.toJson) :: node.step.members)

namespace Workflow

def toJson (workflow : Workflow) : Json := .object [
  ("name", .text workflow.name),
  ("nodes", .list Node.toJson workflow.nodes),
  ("connections", workflow.connections.toJson),
  ("active", .bool workflow.active),
  ("settings", .object [("executionOrder", .text workflow.executionOrder)]),
  ("tags", workflow.tags.toJson)]

def toText (workflow : Workflow) (indentation : Nat) : String := workflow.toJson.pretty indentation

end Workflow

end WorkflowSynthesis
