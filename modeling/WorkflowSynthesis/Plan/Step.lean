import WorkflowSynthesis.Catalog.Basic
import WorkflowSynthesis.Parameters

/-! The steps of a plan: nodes before they have an identifier and a place. -/

namespace WorkflowSynthesis

structure Step where
  name : String
  nodeType : String
  typeVersion : Binary64 := Binary64.small 1
  parameters : Members := []
  credentials : Dictionary String := .empty
  onError : Option String := none
  role : Role := .action
  key : String := ""
  requiredFields : List String := []
  missingFields : List String := []
  outputs : Nat := 1
  errorOutput : Bool := false
  mayFail : Bool := false
  intent : String := ""
  service : Option String := none
  /-- The place in the plan of the step whose failures this one handles. -/
  guards : Option Nat := none
  fallback : Bool := false

namespace Step

def ofEntry (key : String) (entry : CatalogEntry) : Step where
  name := entry.displayName
  nodeType := entry.nodeType
  typeVersion := entry.typeVersion
  parameters := entry.defaultParameters
  credentials := .ofList (entry.credentialType.toList.map fun credential => (credential, credential))
  role := entry.role
  key := key
  requiredFields := entry.requiredFields
  outputs := entry.outputs.toNat
  errorOutput := entry.errorOutput
  mayFail := entry.mayFail

def isComplete (step : Step) : Bool := step.missingFields.isEmpty

def withParameters (step : Step) (fromText fromCaller : Members) : Step :=
  let parameters := Parameters.merge (Parameters.merge step.parameters fromText) fromCaller
  { step with parameters, missingFields := Parameters.missing parameters step.requiredFields }

end Step

end WorkflowSynthesis
