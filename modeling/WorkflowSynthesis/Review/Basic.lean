import WorkflowSynthesis.Json.Nesting
import WorkflowSynthesis.Plan.Basic
import WorkflowSynthesis.Review.Report
import WorkflowSynthesis.Workflow.Writer

/-!
Reviewing a workflow, alone or against the plan from which it was drawn. Every rule is evaluated, no
matter how the others end.
-/

namespace WorkflowSynthesis

namespace Review

/-- The texts that occur again, each at its second occurrence. -/
def repeated (texts : List String) : List String := go [] [] texts
where
  go (seen reported : List String) : List String → List String
    | [] => []
    | text :: rest =>
      if seen.contains text then
        if reported.contains text then go seen reported rest else text :: go seen (text :: reported) rest
      else go (text :: seen) reported rest

variable (configuration : Configuration) (workflow : Workflow) (plan : Option Plan)

def parseTextDescription : Verdict :=
  match plan with
  | none => ⟨.parseTextDescription, true, "graph supplied directly; no description to parse"⟩
  | some plan =>
    if plan.steps.isEmpty then ⟨.parseTextDescription, false, "description produced no node specs"⟩
    else ⟨.parseTextDescription, true, "description classified"⟩

def identifyComponents : Verdict :=
  match plan with
  | none => ⟨.identifyComponents, true, "no resolution to inspect"⟩
  | some plan =>
    let triggers := (plan.withRole .trigger).length
    let actions := (plan.withRole .action).length
    ⟨.identifyComponents, triggers == 1 && decide (1 ≤ actions),
      toString triggers ++ " trigger(s), " ++ toString actions ++ " action(s) identified"⟩

def mapBusinessLogic : Verdict :=
  match plan with
  | none => ⟨.mapBusinessLogic, true, "no resolution to inspect"⟩
  | some plan =>
    let untyped := plan.steps.filter fun step => Text.isBlankText step.nodeType
    let fallbacks := ", ".intercalate plan.unresolvedKeys
    Verdict.ofProblems .mapBusinessLogic
      (untyped.map fun step => "'" ++ step.name ++ "' has no node type")
      (if fallbacks = "" then "every intent mapped to a catalog node"
        else "mapped; generic node used for: " ++ fallbacks)

def planErrorHandling : Verdict :=
  if !configuration.failures.enabled then ⟨.planErrorHandling, true, "error handling disabled"⟩
  else match plan with
  | none => ⟨.planErrorHandling, true, "no resolution to inspect"⟩
  | some plan =>
    let guarded := (plan.steps.filterMap (·.guards)).eraseDups
    let unguarded := plan.steps.zipIdx.filter fun (step, index) => step.mayFail && !guarded.contains index
    Verdict.ofProblems .planErrorHandling
      (unguarded.map fun (step, _) => "no error handler planned for '" ++ step.name ++ "'")
      (toString guarded.length ++ " error handler(s) planned")

def requiredProperties : List String := ["name", "nodes", "connections", "active", "settings"]

/-- Why the text of a workflow is not read back: it can only nest too deep. -/
def unreadable (text : String) : String := ((Json.firstTooDeep? text).map TextPlace.message).getD ""

def validateJsonSyntax : Verdict :=
  let text := workflow.toText configuration.output.jsonIndentation.toNat
  match Json.parse? text with
  | none => ⟨.validateJsonSyntax, false, unreadable text⟩
  | some value =>
    let members := value.members?.getD []
    let absent := requiredProperties.filter fun property => (Members.value? members property).isNone
    Verdict.ofProblems .validateJsonSyntax
      (absent.map fun property => "missing property '" ++ property ++ "'") "serializes to valid JSON"

def checkNodeIdUniqueness : Verdict :=
  let blank := workflow.nodes.filter fun node => Text.isBlankText node.id
  Verdict.ofProblems .checkNodeIdUniqueness
    ((repeated (workflow.nodes.map (·.id))).map (fun id => "duplicate node id '" ++ id ++ "'") ++
      blank.map fun node => "node '" ++ node.name ++ "' has an empty id")
    (toString workflow.nodes.length ++ " unique node id(s)")

def verifyConnectionIntegrity : Verdict :=
  let ids := workflow.nodes.map (·.id)
  let sources := workflow.connections.outputs.keys.filter fun source => !ids.contains source
  let targets := (workflow.connections.edges.map (·.target)).filter fun target => !ids.contains target
  Verdict.ofProblems .verifyConnectionIntegrity
    (sources.map (fun source => "connection source '" ++ source ++ "' does not exist") ++
      targets.eraseDups.map fun target => "connection target '" ++ target ++ "' does not exist")
    (toString workflow.connections.size ++ " connection(s) resolve")

def rolePresent (rule : Rule) (role : Role) : Verdict :=
  let count := (workflow.withRole role).length
  ⟨rule, decide (0 < count), toString count ++ " " ++ role.name ++ " node(s)"⟩

def ensureAllNodesConnected : Verdict :=
  let targets := workflow.connections.edges.map (·.target)
  let orphans := workflow.executableNodes.filter fun node =>
    node.role ≠ .trigger && !targets.contains node.id
  Verdict.ofProblems .ensureAllNodesConnected
    (orphans.map fun node => "'" ++ node.name ++ "' has no inbound connection")
    "every non-trigger node is reachable"

def credentialProblems (node : Node) (credential : String × String) : List String :=
  (if configuration.recognizedCredentials.contains credential.1 then []
    else ["'" ++ node.name ++ "' references unknown credential type '" ++ credential.1 ++ "'"]) ++
  (if Text.isBlankText credential.2 then
    ["'" ++ node.name ++ "' has an empty '" ++ credential.1 ++ "' credential name"] else [])

def validateCredentialReferences : Verdict :=
  if !configuration.thresholds.credentialValidation then
    ⟨.validateCredentialReferences, true, "credential validation disabled"⟩
  else
    let references := workflow.nodes.flatMap fun node => node.step.credentials.entries.map (node, ·)
    Verdict.ofProblems .validateCredentialReferences
      (references.flatMap fun (node, credential) => credentialProblems configuration node credential)
      (toString references.length ++ " credential reference(s) recognised")

def validateNodeNames : Verdict :=
  let names := workflow.nodes.map Node.name
  Verdict.ofProblems .validateNodeNames
    (names.filterMap configuration.naming.violation? ++
      (repeated names).map fun name => "duplicate node name '" ++ name ++ "'")
    "all node names are valid"

def isExpected (step : Step) : Bool :=
  step.role = .action || step.role = .condition || step.role = .dataOp

/-- The steps that find no node of their type left, when every step takes one. -/
def unmatched : List String → List Step → List Step
  | _, [] => []
  | available, step :: rest =>
    if available.contains step.nodeType then unmatched (available.erase step.nodeType) rest
    else step :: unmatched available rest

def allActionsImplemented : Verdict :=
  match plan with
  | none =>
    let untyped := (workflow.withRole .action).filter fun node => Text.isBlankText node.nodeType
    Verdict.ofProblems .allActionsImplemented
      (untyped.map fun node => "'" ++ node.name ++ "' has no node type") "every action node has a concrete type"
  | some plan =>
    let expected := plan.steps.filter isExpected
    let lost := unmatched (workflow.executableNodes.map Node.nodeType) expected
    Verdict.ofProblems .allActionsImplemented
      (lost.map fun step => "'" ++ step.name ++ "' was resolved but not placed")
      (toString expected.length ++ " resolved step(s) implemented")

def leadsToType (nodeType : String) (node : Node) : Bool :=
  (workflow.connections.outgoing node.id).any fun edge => (workflow.node? edge.target).any (·.nodeType = nodeType)

def errorHandlingIncluded : Verdict :=
  if !configuration.failures.enabled then ⟨.errorHandlingIncluded, true, "error handling disabled"⟩
  else match configuration.failures.failurePattern? with
  | none =>
    ⟨.errorHandlingIncluded, false, "unknown failure pattern '" ++ configuration.failures.pattern ++ "'"⟩
  | some pattern =>
    let prone := workflow.executableNodes.filter fun node =>
      node.role ≠ .errorHandler && configuration.catalog.mayFailType node.nodeType
    let (guarded, unguarded) := prone.partition (leadsToType workflow pattern.nodeType)
    Verdict.ofProblems .errorHandlingIncluded
      (unguarded.map fun node => "'" ++ node.name ++ "' may fail but has no error handler")
      (toString guarded.length ++ " failure-prone node(s) guarded")

/-- The required fields of a node: its own, then those of its catalog entry. -/
def requiredFields (node : Node) : List String :=
  let entry := configuration.catalog.entryOf? node.step.key node.nodeType
  let further := (entry.map (·.requiredFields)).getD []
  further.foldl (fun required field => if required.contains field then required else required ++ [field])
    node.step.requiredFields

def missingFields (node : Node) : List String :=
  Parameters.missing node.step.parameters (requiredFields configuration node)

def checkMissingParameters : Verdict :=
  let incomplete := workflow.executableNodes.filter fun node => !(missingFields configuration node).isEmpty
  Verdict.ofProblems .checkMissingParameters
    (incomplete.map fun node =>
      "'" ++ node.name ++ "' is missing " ++ ", ".intercalate (missingFields configuration node))
    "all required parameters are set"

def minimumNodes : Verdict :=
  let minimum := configuration.thresholds.minimumNodes.toNat
  let count := workflow.executableCount
  ⟨.minimumNodes, decide (minimum ≤ count),
    toString count ++ " executable node(s), at least " ++ toString minimum ++ " required"⟩

def maximumNodes : Verdict :=
  let maximum := configuration.thresholds.maximumNodes.toNat
  let count := workflow.executableCount
  ⟨.maximumNodes, decide (count ≤ maximum),
    toString count ++ " executable node(s), at most " ++ toString maximum ++ " allowed"⟩

def check : Rule → Verdict
  | .parseTextDescription => parseTextDescription plan
  | .identifyComponents => identifyComponents plan
  | .mapBusinessLogic => mapBusinessLogic plan
  | .planErrorHandling => planErrorHandling configuration plan
  | .validateJsonSyntax => validateJsonSyntax configuration workflow
  | .checkNodeIdUniqueness => checkNodeIdUniqueness workflow
  | .verifyConnectionIntegrity => verifyConnectionIntegrity workflow
  | .triggerPresent => rolePresent workflow .triggerPresent .trigger
  | .actionPresent => rolePresent workflow .actionPresent .action
  | .ensureAllNodesConnected => ensureAllNodesConnected workflow
  | .validateCredentialReferences => validateCredentialReferences configuration workflow
  | .validateNodeNames => validateNodeNames configuration workflow
  | .allActionsImplemented => allActionsImplemented workflow plan
  | .errorHandlingIncluded => errorHandlingIncluded configuration workflow
  | .checkMissingParameters => checkMissingParameters configuration workflow
  | .minimumNodes => minimumNodes configuration workflow
  | .maximumNodes => maximumNodes configuration workflow

end Review

def Workflow.review (configuration : Configuration) (workflow : Workflow) (plan : Option Plan) : Report where
  verdicts := Rule.all.map (Review.check configuration workflow plan)
  diagnostics := (plan.map (·.diagnostics)).getD []
  nodeCount := workflow.executableCount

end WorkflowSynthesis
