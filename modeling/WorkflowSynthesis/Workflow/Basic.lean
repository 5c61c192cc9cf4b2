import WorkflowSynthesis.Configuration.Basic
import WorkflowSynthesis.Plan.Step
import WorkflowSynthesis.Workflow.Connections
import WorkflowSynthesis.Workflow.Position

/-! Workflows: nodes with identifiers and places, and the connections between them. -/

namespace WorkflowSynthesis

structure Node where
  id : String
  position : Position
  step : Step

namespace Node

def name (node : Node) : String := node.step.name

def nodeType (node : Node) : String := node.step.nodeType

def role (node : Node) : Role := node.step.role

def isExecutable (node : Node) : Bool := node.role.isExecutable

end Node

structure Workflow where
  name : String
  nodes : List Node
  connections : Connections
  active : Bool
  executionOrder : String
  tags : Labels

namespace Workflow

def empty (defaults : WorkflowDefaults) (name : String) : Workflow where
  name
  nodes := []
  connections := .empty
  active := defaults.active
  executionOrder := defaults.executionOrder
  tags := defaults.tags

def node? (workflow : Workflow) (id : String) : Option Node := workflow.nodes.find? (·.id = id)

def nodeByName? (workflow : Workflow) (name : String) : Option Node := workflow.nodes.find? (·.name = name)

def withRole (workflow : Workflow) (role : Role) : List Node := workflow.nodes.filter (·.role = role)

def executableNodes (workflow : Workflow) : List Node := workflow.nodes.filter Node.isExecutable

def executableCount (workflow : Workflow) : Nat := workflow.executableNodes.length

def annotationCount (workflow : Workflow) : Nat := workflow.nodes.length - workflow.executableCount

def trigger? (workflow : Workflow) : Option Node := workflow.nodes.find? (·.role = .trigger)

end Workflow

end WorkflowSynthesis
