import WorkflowSynthesis.Plan.Step
import WorkflowSynthesis.Workflow.Basic
import WorkflowSynthesis.Workflow.Free
import WorkflowSynthesis.Workflow.Identifiers

/-!
Drawing a plan as a workflow. Steps are placed on the grid one after another: the main chain from left
to right with the ends of its branches below, then further triggers, then handlers. Every edge leads
to the next stage.
-/

namespace WorkflowSynthesis

/-- A node on the grid, with the place in the plan of its step; the end of a branch has none. -/
structure Placement where
  node : Node
  stage : Nat
  lane : Nat
  source : Option Nat

/-- The nodes in the order in which they were placed. Each one took one identifier. -/
structure Draft where
  placements : List Placement := []
  connections : Connections := .empty

structure Drawing where
  grid : Grid
  errorOutputMode : String
  identifiers : Identifiers

namespace Draft

def nodes (draft : Draft) : List Node := draft.placements.map (·.node)

def names (draft : Draft) : List String := draft.nodes.map Node.name

def isOccupied (draft : Draft) (stage lane : Nat) : Bool :=
  draft.placements.any fun placement => placement.stage == stage && placement.lane == lane

def nextLane (draft : Draft) (stage : Nat) : Nat :=
  Free.least (fun lane => !draft.isOccupied stage lane) draft.placements.length 1

def stageOf (draft : Draft) (id : String) : Nat :=
  ((draft.placements.reverse.find? (·.node.id = id)).map (·.stage)).getD 0

def idOf? (draft : Draft) (index : Nat) : Option String :=
  (draft.placements.find? (·.source = some index)).map (·.node.id)

def nextNode (draft : Draft) (drawing : Drawing) (step : Step) (stage lane : Nat) : Node where
  id := drawing.identifiers draft.placements.length
  position := drawing.grid.position stage lane
  step := { step with name := Free.name draft.names step.name }

def place (draft : Draft) (drawing : Drawing) (source : Option Nat) (step : Step) (stage lane : Nat) : Draft :=
  { draft with
    placements := draft.placements ++ [{ node := draft.nextNode drawing step stage lane, stage, lane, source }] }

def connect (draft : Draft) (source : String) (output : Nat) (target : String) : Draft :=
  { draft with connections := draft.connections.connect source output target 0 }

end Draft

namespace Step

def isBranching (step : Step) : Bool := step.role = .condition && decide (1 < step.outputs)

def passThroughType : String := "n8n-nodes-base.noOp"

def branchEndName (source : String) (outputs output : Nat) : String :=
  if outputs = 2 then if output = 0 then source ++ " Met" else source ++ " Not Met"
  else source ++ " Output " ++ toString (output + 1)

def branchEnd (source : String) (outputs output : Nat) : Step where
  name := branchEndName source outputs output
  nodeType := passThroughType
  key := "branch_end"
  intent := "continue when " ++ source ++ " takes output " ++ toString output

end Step

namespace Draft

def addBranchEnd (draft : Draft) (drawing : Drawing) (node : Node) (output lane : Nat) : Draft :=
  let step := Step.branchEnd node.name node.step.outputs output
  let stage := draft.stageOf node.id + 1
  let leaf := draft.nextNode drawing step stage lane
  (draft.place drawing none step stage lane).connect node.id output leaf.id

def addBranchEnds (draft : Draft) (drawing : Drawing) (node : Node) (stage : Nat) : Draft :=
  (List.range' 1 (node.step.outputs - 1)).foldl
    (fun draft output => draft.addBranchEnd drawing node output (draft.nextLane (stage + 1))) draft

end Draft

/-- The main chain so far: the draft, the node at its end, and the node at its second stage. -/
structure Chain where
  draft : Draft := {}
  tail : Option Node := none
  second : Option Node := none

namespace Chain

def extend (drawing : Drawing) (chain : Chain) (part : (Nat × Step) × Nat) : Chain :=
  let ((index, step), stage) := part
  let node := chain.draft.nextNode drawing step stage 0
  let draft := chain.draft.place drawing (some index) step stage 0
  let draft := match chain.tail with
    | some previous => draft.connect previous.id 0 node.id
    | none => draft
  { draft := if step.isBranching then draft.addBranchEnds drawing node stage else draft
    tail := some node
    second := if stage = 1 then some node else chain.second }

def ofSteps (drawing : Drawing) (steps : List (Nat × Step)) : Chain :=
  steps.zipIdx.foldl (extend drawing) {}

def closed (drawing : Drawing) (chain : Chain) : Draft :=
  match chain.tail with
  | some node => if node.step.isBranching then chain.draft.addBranchEnd drawing node 0 0 else chain.draft
  | none => chain.draft

end Chain

namespace Draft

def addTrigger (drawing : Drawing) (second : Option Node) (draft : Draft) (part : Nat × Step) : Draft :=
  let (index, step) := part
  let lane := draft.nextLane 0
  let node := draft.nextNode drawing step 0 lane
  let draft := draft.place drawing (some index) step 0 lane
  match second with
  | some target => draft.connect node.id 0 target.id
  | none => draft

def changeFirst (id : String) (change : Step → Step) : List Placement → List Placement
  | [] => []
  | placement :: rest =>
    if placement.node.id = id then
      { placement with node := { placement.node with step := change placement.node.step } } :: rest
    else placement :: changeFirst id change rest

/-- Leads the failures of a node to its handler: through the error output if the node has one and the
mode is set, otherwise through the first output. -/
def routeFailures (drawing : Drawing) (draft : Draft) (guarded handler : String) : Draft :=
  match draft.nodes.find? (·.id = guarded) with
  | some node =>
    if node.step.errorOutput && drawing.errorOutputMode ≠ "" then
      let change := fun step : Step => { step with onError := some drawing.errorOutputMode }
      { draft with placements := changeFirst guarded change draft.placements }.connect
        guarded node.step.outputs handler
    else draft.connect guarded 0 handler
  | none => draft.connect guarded 0 handler

/-- Places a handler after the node that it guards: the node of the step it names, or else the end of
the chain. -/
def addHandler (drawing : Drawing) (tail : Option Node) (draft : Draft) (part : Nat × Step) : Draft :=
  let (index, step) := part
  match (step.guards.bind draft.idOf?).or (tail.map (·.id)) with
  | none => draft.place drawing (some index) step 0 (draft.nextLane 0)
  | some guarded =>
    let stage := draft.stageOf guarded + 1
    let lane := draft.nextLane stage
    let node := draft.nextNode drawing step stage lane
    (draft.place drawing (some index) step stage lane).routeFailures drawing guarded node.id

end Draft

structure PlanParts where
  triggers : List (Nat × Step)
  actions : List (Nat × Step)
  inline : List (Nat × Step)
  branching : List (Nat × Step)
  handlers : List (Nat × Step)

namespace PlanParts

def ofSteps (steps : List Step) : PlanParts :=
  let numbered := steps.zipIdx.map fun (step, index) => (index, step)
  let select := fun (accept : Step → Bool) => numbered.filter fun part => accept part.2
  { triggers := select (·.role = .trigger)
    actions := select (·.role = .action)
    inline := select fun step => step.role = .dataOp || (step.role = .condition && !step.isBranching)
    branching := select Step.isBranching
    handlers := select (·.role = .errorHandler) }

/-- The main chain: trigger, first action, data operations and conditions with one way out, branching
conditions, further actions. -/
def chain (parts : PlanParts) : List (Nat × Step) :=
  parts.triggers.take 1 ++ parts.actions.take 1 ++ parts.inline ++ parts.branching ++ parts.actions.drop 1

end PlanParts

namespace Draft

def ofSteps (drawing : Drawing) (steps : List Step) : Draft :=
  let parts := PlanParts.ofSteps steps
  let chain := Chain.ofSteps drawing parts.chain
  let draft := (parts.triggers.drop 1).foldl (addTrigger drawing chain.second) (chain.closed drawing)
  parts.handlers.foldl (addHandler drawing chain.tail) draft

end Draft

namespace Workflow

def drawing (configuration : Configuration) (identifiers : Identifiers) : Drawing where
  grid := configuration.grid
  errorOutputMode := configuration.failures.errorOutputMode
  identifiers

def build (configuration : Configuration) (identifiers : Identifiers) (name : String) (steps : List Step) :
    Workflow × Nat :=
  let draft := Draft.ofSteps (drawing configuration identifiers) steps
  ({ Workflow.empty configuration.workflow name with nodes := draft.nodes, connections := draft.connections },
    draft.placements.length)

end Workflow

end WorkflowSynthesis
