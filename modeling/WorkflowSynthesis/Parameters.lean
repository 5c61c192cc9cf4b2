import WorkflowSynthesis.Json.Value
import WorkflowSynthesis.Text.Blank

/-! Node parameters: laying one set over another, and which required ones are missing. -/

namespace WorkflowSynthesis.Parameters

mutual

def mergeValue (held : Option Json) : Json → Json
  | .object incoming =>
    match held with
    | some (.object existing) => .object (merge existing incoming)
    | _ => .object incoming
  | value => value

/-- Lays `overlay` on top of `base`: two objects are merged member by member, any other value replaces
what was there. -/
def merge (base : Members) : List (String × Json) → Members
  | [] => base
  | (key, value) :: rest => merge (base.put key (mergeValue (base.value? key) value)) rest

end

def isPresent (parameters : Members) (field : String) : Bool :=
  match parameters.value? field with
  | none | some .null => false
  | some (.text value) => !Text.isBlankText value
  | some _ => true

def missing (parameters : Members) (required : List String) : List String :=
  required.filter fun field => !isPresent parameters field

end WorkflowSynthesis.Parameters
