import WorkflowSynthesis.Classification.Reading
import WorkflowSynthesis.Configuration.Basic
import WorkflowSynthesis.Plan.Diagnostic
import WorkflowSynthesis.Plan.Step

/-!
Plans: the steps that a classified description calls for. Trigger, actions, conditions and data
operations are requested by key; a key is planned once, where it is requested first. Every request
is met, if need be by the fallback entry of the catalog, and handlers follow for all steps that may
fail.
-/

namespace WorkflowSynthesis

/-- Steps in the order trigger, actions, conditions, data operations, handlers; and what was noticed
on the way. -/
structure Plan where
  steps : List Step := []
  diagnostics : List Diagnostic := []

abbrev Overrides := Dictionary Members

/-- A wish for a step. The role counts if the key is not in the catalog. -/
structure Request where
  key : String
  role : Role
  intent : String
  deriving DecidableEq

namespace Request

def fresh (seen : List String) : List Request → List Request
  | [] => []
  | request :: rest =>
    if seen.contains request.key then fresh seen rest else request :: fresh (request.key :: seen) rest

def keys (requests : List Request) : List String := requests.map (·.key)

end Request

namespace Plan

variable (configuration : Configuration)

def triggerRequest (trigger : Trigger) : Request :=
  { key := trigger.key, role := .trigger, intent := "run " ++ trigger.phrase }

/-- The request of a mention. A verb without a service that names a data operation is none. -/
def mentionRequest? (vocabulary : Vocabulary) (mention : Mention) : Option Request :=
  match mention.serviceKey with
  | some key => some { key, role := .action, intent := mention.verb }
  | none =>
    if vocabulary.isKeyword .dataOp mention.verb then none
    else some {
      key := (vocabulary.verbDefault? mention.verb).getD mention.verb
      role := .action
      intent := mention.verb }

def serviceRequest? (vocabulary : Vocabulary) (service : String) : Option Request :=
  let word := Text.lowercase (Text.trim service)
  if word = "" then none
  else some { key := (vocabulary.serviceKey? word).getD word, role := .action, intent := "call" }

/-- The request made when no action is called for: the primary action, unless its key names a node
of another role. -/
def defaultRequest (primary : String) : Request :=
  let key := (configuration.vocabulary.verbDefault? primary).getD primary
  let isOther := (configuration.catalog.get? key).any (·.role ≠ .action)
  { key := if isOther then configuration.vocabulary.defaultAction else key, role := .action, intent := primary }

def conditionRequest (vocabulary : Vocabulary) (keyword : String) : Request :=
  { key := vocabulary.conditionKey keyword, role := .condition, intent := keyword }

def dataOpRequest (keyword : String) : Request := { key := keyword, role := .dataOp, intent := keyword }

def namedActions (classification : Classification) (services : List String) : List Request :=
  Request.fresh [classification.trigger.key]
    (classification.actions.filterMap (mentionRequest? configuration.vocabulary) ++
      services.filterMap (serviceRequest? configuration.vocabulary))

def actions (classification : Classification) (services : List String) : List Request :=
  match namedActions configuration classification services with
  | [] => [defaultRequest configuration classification.primaryAction]
  | named => named

def requests (classification : Classification) (services : List String) : List Request :=
  let first := triggerRequest classification.trigger :: actions configuration classification services
  let conditions := Request.fresh (Request.keys first)
    (classification.conditions.map (conditionRequest configuration.vocabulary))
  let dataOps := Request.fresh (Request.keys (first ++ conditions)) (classification.dataOps.map dataOpRequest)
  first ++ conditions ++ dataOps

def stepOf (catalog : Catalog) (request : Request) : Step :=
  match catalog.get? request.key with
  | some entry =>
    { Step.ofEntry request.key entry with
      intent := request.intent
      service := if entry.usesService then some entry.displayName else none }
  | none =>
    let step := Step.ofEntry request.key catalog.fallback
    let title := Text.titleCase request.key
    { step with
      name := if title = "" then step.name else title
      role := request.role
      intent := request.intent
      fallback := true }

def scheduleParameters (hint : ScheduleHint) : Members :=
  let hour := if hint.interval = .hour then none else hint.hour
  let item := [("mode", .text hint.interval.mode)] ++
    hour.toList.map (fun hour => ("hour", .nat hour)) ++
    hint.minute.toList.map (fun minute => ("minute", .nat minute))
  [("triggerTimes", .object [("item", .array [.object item])])]

def deal (field : String) : List String → List Step → List Members
  | _, [] => []
  | [], _ :: steps => [] :: deal field [] steps
  | value :: values, step :: steps =>
    if step.requiredFields.contains field then [(field, .text value)] :: deal field values steps
    else [] :: deal field (value :: values) steps

/-- The parameters that the description gives each step. The trigger is the first step. -/
def textParameters (classification : Classification) (steps : List Step) : List Members :=
  let addresses := List.zipWith (· ++ ·)
    (deal "url" classification.entities.urls steps) (deal "toEmail" classification.entities.emails steps)
  match classification.schedule, addresses with
  | some hint, first :: rest => (scheduleParameters hint ++ first) :: rest
  | _, addresses => addresses

def handlerOf (pattern : FailurePattern) (index : Nat) (step : Step) : Step where
  name := step.name ++ " Fallback"
  nodeType := pattern.nodeType
  typeVersion := pattern.typeVersion
  parameters := pattern.parameters
  role := .errorHandler
  key := "error_handler"
  intent := step.name ++ " fails"
  guards := some index

def handlers (policy : FailurePolicy) (steps : List Step) : List Step :=
  match policy.enabled, policy.failurePattern? with
  | true, some pattern =>
    (steps.zipIdx.filter (·.1.mayFail)).map fun (step, index) => handlerOf pattern index step
  | _, _ => []

def unclassifiedNotes (classification : Classification) : List Diagnostic :=
  if classification.isUnclassified then
    [⟨.unclassifiedInput, "no keywords recognised; defaulting to a " ++ classification.trigger.key ++
      " trigger and '" ++ classification.primaryAction ++ "'"⟩]
  else []

def defaultActionNotes (classification : Classification) (services : List String) : List Diagnostic :=
  if (namedActions configuration classification services).isEmpty then
    let request := defaultRequest configuration classification.primaryAction
    [⟨.defaultAction, "no action mentioned; synthesized '" ++ request.key ++ "' from primary action '" ++
      classification.primaryAction ++ "'"⟩]
  else []

def unresolvedNotes (catalog : Catalog) (requests : List Request) : List Diagnostic :=
  (requests.filter fun request => (catalog.get? request.key).isNone).map fun request =>
    ⟨.unresolvedKey, "no catalog entry for '" ++ request.key ++ "'; using the generic '" ++
      catalog.fallbackKey ++ "' node"⟩

def unusedNotes (overrides : Overrides) (requests : List Request) : List Diagnostic :=
  (overrides.keys.filter fun key => !(Request.keys requests).contains key).map fun key =>
    ⟨.unusedOverride, "parameters supplied for '" ++ key ++ "' but no such node was resolved"⟩

def ofClassification (classification : Classification) (overrides : Overrides) (services : List String) : Plan :=
  let requests := requests configuration classification services
  let steps := requests.map (stepOf configuration.catalog)
  let steps := List.zipWith
    (fun step fromText => step.withParameters fromText ((overrides.get? step.key).getD []))
    steps (textParameters classification steps)
  { steps := steps ++ handlers configuration.failures steps
    diagnostics :=
      unclassifiedNotes classification ++
      defaultActionNotes configuration classification services ++
      unresolvedNotes configuration.catalog requests ++
      unusedNotes overrides requests }

def withRole (plan : Plan) (role : Role) : List Step := plan.steps.filter (·.role = role)

def unresolvedKeys (plan : Plan) : List String := (plan.steps.filter (·.fallback)).map (·.key)

end Plan

end WorkflowSynthesis
