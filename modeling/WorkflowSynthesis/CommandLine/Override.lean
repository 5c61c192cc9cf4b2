import WorkflowSynthesis.Json.Reader
import WorkflowSynthesis.Plan.Basic

/-!
Parameters given on the command line, written `key.field=value`. The first equals sign ends the path,
and the first point in the path ends the key.
-/

namespace WorkflowSynthesis

inductive OverrideError where
  | noValue (parameter : String)
  | noField (parameter : String)
  deriving DecidableEq

def OverrideError.message : OverrideError → String
  | .noValue parameter => "Parameter '" ++ parameter ++ "' is not of the form key.field=value"
  | .noField parameter => "Parameter '" ++ parameter ++ "' is missing a '.field' part"

structure Override where
  key : String
  field : String
  value : Json

def Text.splitFirst? (separator : Char) (text : List Char) : Option (List Char × List Char) :=
  match text.dropWhile (· ≠ separator) with
  | [] => none
  | _ :: rest => some (text.takeWhile (· ≠ separator), rest)

namespace Override

/-- The value that a text stands for: what it states as JSON, or else the text itself. -/
def valueOfText (text : String) : Json := (Json.parse? text).getD (.text text)

def ofText (parameter : String) : Except OverrideError Override :=
  match Text.splitFirst? '=' parameter.toList with
  | none => .error (.noValue parameter)
  | some (path, value) =>
    match Text.splitFirst? '.' path with
    | none => .error (.noField parameter)
    | some (key, field) => .ok {
        key := Text.trim (String.ofList key)
        field := Text.trim (String.ofList field)
        value := valueOfText (String.ofList value) }

end Override

namespace Overrides

def put (overrides : Overrides) (parameter : Override) : Overrides :=
  let members := (overrides.get? parameter.key).getD []
  overrides.insert parameter.key (members.put parameter.field parameter.value)

def ofTexts (parameters : List String) : Except OverrideError Overrides := do
  return (← parameters.mapM Override.ofText).foldl put .empty

end Overrides

end WorkflowSynthesis
