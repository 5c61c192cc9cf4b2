import WorkflowSynthesis.Notes.Template
import WorkflowSynthesis.Workflow.Basic

/-!
Writing notes about a workflow: one for its start, one for every condition, call of a service, data
operation and failure handler, and the notes that the caller asks for. The workflow is only read, and
the notes it already has are passed over.
-/

namespace WorkflowSynthesis

structure CustomNote where
  category : String := ""
  description : String := ""
  anchor : Option String := none

structure DocumentationContext where
  purpose : String := ""
  outcome : String := ""
  /-- Inferred from the trigger node when absent. -/
  trigger : Option Trigger := none
  notes : List CustomNote := []

structure Note where
  anchor : Option String
  category : NoteCategory
  content : String
  color : String
  deriving DecidableEq

structure Documentation where
  notes : List Note
  description : String
  deriving DecidableEq

namespace Documentation

variable (configuration : Configuration) (workflow : Workflow)

def inferTrigger? : Option Trigger := do
  let node ← workflow.trigger?
  Trigger.all.find? fun trigger =>
    (configuration.catalog.get? trigger.key).any (·.nodeType = node.nodeType)

/-- The outcome told when the caller tells none: the actions, without the ends of branches. -/
def defaultOutcome : String :=
  let actions := (workflow.withRole .action).filter (·.step.key ≠ "branch_end")
  let names := ", ".intercalate (actions.map Node.name)
  if names = "" then "its steps being completed" else names ++ " being completed"

/-- The service that an action talks to: the one it was planned for, or that of its catalog entry, or
itself if nothing else is known. -/
def service? (node : Node) : Option String :=
  let entry := (configuration.catalog.entryOf? node.step.key node.nodeType).filter (·.usesService)
  (node.step.service.or (entry.map (·.displayName))).or
    (if node.step.mayFail || !node.step.credentials.entries.isEmpty then some node.name else none)

/-- Whether a node handles failures: by its role, or, where a key does not say what it is, by the type
of the failure pattern. -/
def isHandlerLike (node : Node) : Bool :=
  node.role = .errorHandler ||
    (node.step.key = "" && configuration.failures.failurePattern?.any (·.nodeType = node.nodeType))

def carriesFailures (source : Node) (output : Nat) : Bool :=
  configuration.catalog.mayFailType source.nodeType &&
    (if source.step.onError.isSome then decide (0 < output) else output == 0)

def guarded? (node : Node) : Option Node :=
  if isHandlerLike configuration node then
    (workflow.connections.edges.filter (·.target = node.id)).findSome? fun edge =>
      (workflow.node? edge.source).filter fun source => carriesFailures configuration source edge.output
  else none

def orName (text : String) (node : Node) : String := if text = "" then node.name else text

def scenario (node : Node) (guarded : Option Node) : String :=
  match guarded with
  | some source => if node.step.intent = "" then source.name ++ " fails" else node.step.intent
  | none => orName node.step.intent node

def subject? (node : Node) : Option (NoteCategory × NoteContext) :=
  let guarded := guarded? configuration workflow node
  match if guarded.isSome then Role.errorHandler else node.role with
  | .condition => some (.decision, { condition := orName node.step.intent node })
  | .action => (service? configuration node).map fun service =>
      (.apiCall, { service, action := orName node.step.intent node })
  | .dataOp => some (.dataTransform, { operation := orName node.step.intent node })
  | .errorHandler => some (.errorHandling, { scenario := scenario node guarded })
  | .trigger | .note => none

def note (anchor : Option String) (category : NoteCategory) (content : String) : Note :=
  { anchor, category, content, color := configuration.notes.colorFor category.key }

def nodeNote? (node : Node) : Option Note :=
  (subject? configuration workflow node).map fun (category, context) =>
    note configuration (some node.id) category (configuration.templates.render category context)

def customNote (custom : CustomNote) : Note :=
  let category := NoteCategory.ofKey custom.category
  let anchor := (custom.anchor.bind workflow.nodeByName?).map (·.id)
  note configuration anchor category
    (configuration.templates.render category { description := custom.description })

def purpose (context : DocumentationContext) : String :=
  if Text.isBlankText context.purpose then "automates '" ++ workflow.name ++ "'" else Text.trim context.purpose

def outcome (context : DocumentationContext) : String :=
  if Text.isBlankText context.outcome then defaultOutcome workflow else Text.trim context.outcome

def trigger (context : DocumentationContext) : Trigger :=
  (context.trigger.or (inferTrigger? configuration workflow)).getD .manual

def ofWorkflow (context : DocumentationContext) : Documentation :=
  let purpose := purpose workflow context
  let description :=
    NoteTemplates.describe purpose (trigger configuration workflow context).phrase (outcome workflow context)
  let start := note configuration (workflow.trigger?.map (·.id)) .start
    (configuration.templates.render .start { purpose } ++ "\n\n" ++ description)
  { notes :=
      start :: workflow.executableNodes.filterMap (nodeNote? configuration workflow) ++
        context.notes.map (customNote configuration workflow)
    description }

end Documentation

end WorkflowSynthesis
