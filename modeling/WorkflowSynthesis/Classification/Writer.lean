import WorkflowSynthesis.Classification.Basic
import WorkflowSynthesis.Json.Value

/-! Classifications as JSON. -/

namespace WorkflowSynthesis

def Mention.toJson (mention : Mention) : Json := .object [
  ("verb", .text mention.verb),
  ("service", .optional .text mention.service),
  ("serviceKey", .optional .text mention.serviceKey)]

def ScheduleHint.toJson (hint : ScheduleHint) : Json := .object [
  ("interval", .text hint.interval.mode),
  ("hour", .optional .nat hint.hour),
  ("minute", .optional .nat hint.minute)]

def Entities.toJson (entities : Entities) : Json :=
  .object [("urls", .texts entities.urls), ("emails", .texts entities.emails)]

def Classification.toJson (classification : Classification) : Json := .object [
  ("trigger", .text classification.trigger.key),
  ("primaryAction", .text classification.primaryAction),
  ("actions", .list Mention.toJson classification.actions),
  ("triggerKeywords", .texts classification.triggerKeywords),
  ("conditions", .texts classification.conditions),
  ("dataOps", .texts classification.dataOps),
  ("schedule", .optional ScheduleHint.toJson classification.schedule),
  ("entities", classification.entities.toJson)]

end WorkflowSynthesis
