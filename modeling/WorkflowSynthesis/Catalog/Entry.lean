import WorkflowSynthesis.Json.Value
import WorkflowSynthesis.Role

/-! The entries of the node catalog. -/

namespace WorkflowSynthesis

namespace Binary64

def small (value : Nat) : Binary64 := (ofNat? value).getD zero

end Binary64

structure CatalogEntry where
  nodeType : String
  typeVersion : Binary64 := Binary64.small 1
  displayName : String
  role : Role
  defaultParameters : Members := []
  requiredFields : List String := []
  credentialType : Option String := none
  /-- The number of main outputs. A condition with more than one of them branches. -/
  outputs : UInt32 := 1
  errorOutput : Bool := false
  /-- Whether the node talks to a service, and so needs someone to handle its failures. -/
  mayFail : Bool := false

namespace CatalogEntry

def usesService (entry : CatalogEntry) : Bool := entry.credentialType.isSome || entry.mayFail

end CatalogEntry

end WorkflowSynthesis
