import WorkflowSynthesis.Workflow.Basic

/-!
Workflows from JSON. What is not written is recovered as far as possible: the role of a node from its
type, and its error output from its error mode.
-/

namespace WorkflowSynthesis

open Document (bool? text? word32? real? list? optional? dictionary? labels? members?)

inductive WorkflowError where
  | malformed
  | notAnObject
  | missingProperty (name : String)
  deriving DecidableEq

def WorkflowError.message : WorkflowError → String
  | .malformed => "Failed to parse workflow graph JSON"
  | .notAnObject => "Failed to parse workflow graph JSON: top-level value is not an object"
  | .missingProperty name => "Workflow JSON is missing required property '" ++ name ++ "'"

def Position.ofDocument? : Document → Option Position
  | .array [x, y] => do return { x := ← x.signedInteger?, y := ← y.signedInteger? }
  | _ => none

def Target.ofDocument? (document : Document) : Option Target := do
  let fields ← document.fields? ["node", "type", "index"]
  return {
    node := ← fields.required "node" text?
    kind := ← fields.required "type" text?
    index := ← fields.required "index" word32? }

def Connections.outputsOfDocument? (document : Document) : Option (List (List Target)) := do
  let fields ← document.fields? ["main"]
  fields.required "main" (list? (list? Target.ofDocument?))

def Connections.ofDocument? (document : Document) : Option Connections :=
  (document.dictionary? Connections.outputsOfDocument?).map Connections.mk

def Step.credentialOfDocument? (document : Document) : Option String := do
  let fields ← document.fields? ["name"]
  fields.required "name" text?

def Step.ofFields? (fields : Fields) : Option Step := do
  let nodeType ← fields.required "type" text?
  let onError ← fields.orElse "onError" (optional? text?) none
  return {
    name := ← fields.required "name" text?
    nodeType
    typeVersion := ← fields.orElse "typeVersion" real? (Binary64.small 1)
    parameters := ← fields.orElse "parameters" (members? maximumDepth) []
    credentials := ← fields.orElse "credentials" (dictionary? Step.credentialOfDocument?) .empty
    onError
    role := Role.ofNodeType nodeType
    errorOutput := onError.isSome }

/-- A node, which must be written as an object. -/
def Node.ofDocument? : Document → Option Node
  | .object members => do
    let fields ← (Document.object members).fields?
      ["id", "position", "name", "type", "typeVersion", "parameters", "credentials", "onError"]
    return {
      id := ← fields.required "id" text?
      position := ← fields.required "position" Position.ofDocument?
      step := ← Step.ofFields? fields }
  | _ => none

def Workflow.executionOrderOfDocument? (document : Document) : Option String := do
  let fields ← document.fields? ["executionOrder"]
  fields.required "executionOrder" text?

namespace Workflow

def ofDocument? (document : Document) : Option Workflow := do
  let fields ← document.fields? ["name", "nodes", "connections", "active", "settings", "tags"]
  return {
    name := ← fields.required "name" text?
    nodes := ← fields.required "nodes" (list? Node.ofDocument?)
    connections := ← fields.required "connections" Connections.ofDocument?
    active := ← fields.orElse "active" bool? false
    executionOrder := ← fields.required "settings" executionOrderOfDocument?
    tags := ← fields.orElse "tags" labels? .empty }

def requiredProperties : List String := ["name", "nodes", "connections", "settings"]

def ofJson (value : Json) : Except WorkflowError Workflow :=
  match value with
  | .object members =>
    match requiredProperties.find? fun property => (Members.value? members property).isNone with
    | some property => .error (.missingProperty property)
    | none =>
      match ofDocument? (.ofJson value) with
      | some workflow => .ok workflow
      | none => .error .malformed
  | _ => .error .notAnObject

def ofText (text : String) : Except WorkflowError Workflow :=
  match Json.parse? text with
  | some value => ofJson value
  | none => .error .malformed

end Workflow

end WorkflowSynthesis
