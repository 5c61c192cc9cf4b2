/-! The rules by which workflows are reviewed. -/

namespace WorkflowSynthesis

inductive RuleCategory where
  | preGeneration
  | structural
  | completeness
  deriving DecidableEq

namespace RuleCategory

def key : RuleCategory → String
  | .preGeneration => "preGeneration"
  | .structural => "structural"
  | .completeness => "completeness"

def title : RuleCategory → String
  | .preGeneration => "pre-generation"
  | .structural => "structural"
  | .completeness => "completeness"

end RuleCategory

inductive Rule where
  | parseTextDescription
  | identifyComponents
  | mapBusinessLogic
  | planErrorHandling
  | validateJsonSyntax
  | checkNodeIdUniqueness
  | verifyConnectionIntegrity
  | triggerPresent
  | actionPresent
  | ensureAllNodesConnected
  | validateCredentialReferences
  | validateNodeNames
  | allActionsImplemented
  | errorHandlingIncluded
  | checkMissingParameters
  | minimumNodes
  | maximumNodes
  deriving DecidableEq

namespace Rule

def all : List Rule := [
  .parseTextDescription, .identifyComponents, .mapBusinessLogic, .planErrorHandling,
  .validateJsonSyntax, .checkNodeIdUniqueness, .verifyConnectionIntegrity, .triggerPresent, .actionPresent,
  .ensureAllNodesConnected, .validateCredentialReferences, .validateNodeNames,
  .allActionsImplemented, .errorHandlingIncluded, .checkMissingParameters, .minimumNodes, .maximumNodes]

def name : Rule → String
  | .parseTextDescription => "parseTextDescription"
  | .identifyComponents => "identifyComponents"
  | .mapBusinessLogic => "mapBusinessLogic"
  | .planErrorHandling => "planErrorHandling"
  | .validateJsonSyntax => "validateJsonSyntax"
  | .checkNodeIdUniqueness => "checkNodeIdUniqueness"
  | .verifyConnectionIntegrity => "verifyConnectionIntegrity"
  | .triggerPresent => "triggerPresent"
  | .actionPresent => "actionPresent"
  | .ensureAllNodesConnected => "ensureAllNodesConnected"
  | .validateCredentialReferences => "validateCredentialReferences"
  | .validateNodeNames => "validateNodeNames"
  | .allActionsImplemented => "allActionsImplemented"
  | .errorHandlingIncluded => "errorHandlingIncluded"
  | .checkMissingParameters => "checkMissingParameters"
  | .minimumNodes => "minimumNodes"
  | .maximumNodes => "maximumNodes"

def category : Rule → RuleCategory
  | .parseTextDescription | .identifyComponents | .mapBusinessLogic | .planErrorHandling => .preGeneration
  | .validateJsonSyntax | .checkNodeIdUniqueness | .verifyConnectionIntegrity | .triggerPresent
  | .actionPresent | .ensureAllNodesConnected | .validateCredentialReferences | .validateNodeNames => .structural
  | .allActionsImplemented | .errorHandlingIncluded | .checkMissingParameters | .minimumNodes
  | .maximumNodes => .completeness

def isBlocking (rule : Rule) : Bool :=
  rule.category = .structural || rule = .minimumNodes || rule = .maximumNodes

end Rule

end WorkflowSynthesis
