import WorkflowSynthesis.Catalog.Standard
import WorkflowSynthesis.Dictionary
import WorkflowSynthesis.Trigger

/-! Settings: everything that can be configured, as plain data, with the standard values. -/

namespace WorkflowSynthesis

structure TriggerPattern where
  trigger : Trigger
  pattern : String
  deriving DecidableEq

structure VocabularySettings where
  triggerKeywords : List String :=
    ["when", "if", "trigger", "start", "schedule", "webhook", "email", "form"]
  actionKeywords : List String :=
    ["send", "create", "update", "delete", "fetch", "process", "transform", "notify"]
  conditionKeywords : List String := ["if", "when", "condition", "filter", "check", "validate", "switch"]
  dataOpKeywords : List String := ["transform", "map", "merge", "split", "aggregate", "format"]
  /-- The primary action is the first of these that a description mentions. -/
  actionPriority : List String := ["send", "create", "update", "delete", "process", "transform"]
  defaultAction : String := "process"
  /-- The first pattern that matches selects the trigger. -/
  triggerPatterns : List TriggerPattern := [
    ⟨.schedule, "every|daily|hourly|weekly|monthly"⟩,
    ⟨.webhook, "webhook|api|http|post|receive"⟩,
    ⟨.email, "email|mail|message"⟩,
    ⟨.manual, "manual|button|click|start"⟩]
  defaultTrigger : Trigger := .manual
  services : Dictionary String := .ofList [
    ("email", "send_email"), ("mail", "send_email"), ("gmail", "send_email"), ("smtp", "send_email"),
    ("slack", "slack"), ("discord", "discord"),
    ("openai", "openai"), ("gpt", "openai"), ("chatgpt", "openai"), ("ai", "openai"), ("llm", "openai"),
    ("database", "database"), ("db", "database"), ("postgres", "database"), ("postgresql", "database"),
    ("sql", "database"),
    ("api", "http_request"), ("http", "http_request"), ("https", "http_request"), ("url", "http_request"),
    ("endpoint", "http_request"), ("rest", "http_request"),
    ("code", "code"), ("script", "code"), ("javascript", "code")]
  verbDefaults : Dictionary String := .ofList [("fetch", "http_request"), ("notify", "send_email")]
  conditionKeys : Dictionary String := .ofList [
    ("if", "condition"), ("when", "condition"), ("condition", "condition"), ("filter", "filter"),
    ("check", "condition"), ("validate", "condition"), ("switch", "switch")]
  urlPattern : String := "https?://[^\\s\"'<>]+[^\\s\"'<>.,;:!?)]"
  emailPattern : String := "[A-Za-z0-9._%+-]+@[A-Za-z0-9.-]+\\.[A-Za-z]\x7b2,\x7d"
  timePattern : String := "\\bat\\s+(\\d\x7b1,2\x7d)(?::(\\d\x7b2\x7d))?\\s*(am|pm)?\\b"

structure CatalogSettings where
  /-- The key of the entry that stands in for keys without one. -/
  fallback : String := "code"
  entries : Dictionary CatalogEntry := .ofList StandardCatalog.entries

structure Grid where
  origin : Int64 × Int64 := (250, 300)
  horizontalSpacing : Int64 := 400
  verticalSpacing : Int64 := 200

structure Thresholds where
  minimumNodes : UInt64 := 2
  maximumNodes : UInt64 := 50
  requiredDocumentation : Bool := true
  credentialValidation : Bool := true

structure FailurePattern where
  nodeType : String
  typeVersion : Binary64 := Binary64.small 1
  parameters : Members := []

structure FailurePolicy where
  enabled : Bool := true
  pattern : String := "apiFailure"
  patterns : Dictionary FailurePattern := .ofList [
    ("apiFailure", {
      nodeType := "n8n-nodes-base.noOp"
      parameters := [("notice", .text "API call failed - continuing with default values")] }),
    ("dataValidation", { nodeType := "n8n-nodes-base.if", parameters := StandardCatalog.dataIsNotEmpty }),
    ("timeout", {
      nodeType := "n8n-nodes-base.httpRequest"
      parameters := [("timeout", .nat 30000), ("continueOnFail", .bool true)] })]
  /-- The mode of nodes whose failures leave through their error output. -/
  errorOutputMode : String := "continueErrorOutput"

structure NamingSettings where
  maxLength : UInt64 := 50
  pattern : String := "^[A-Z][a-zA-Z0-9\\s_-]*$"
  workflowNameWords : UInt64 := 5
  workflowNameSuffix : String := "Workflow"
  fallbackWorkflowName : String := "Generated Workflow"

structure NoteSettings where
  colors : Dictionary String := .ofList [
    ("start", "#FFD700"), ("decision", "#FF6B6B"), ("api", "#4ECDC4"), ("transform", "#45B7D1"),
    ("error", "#FFA07A")]
  defaultColor : String := "#D3D3D3"
  noteWidth : UInt32 := 240
  noteHeight : UInt32 := 160

def NoteSettings.colorFor (settings : NoteSettings) (key : String) : String :=
  (settings.colors.get? key).getD settings.defaultColor

structure WorkflowDefaults where
  active : Bool := false
  executionOrder : String := "v1"
  tags : Labels := Labels.ofTexts ["generated", "text-description"]

structure OutputSettings where
  jsonIndentation : UInt64 := 2

structure Settings where
  vocabulary : VocabularySettings := {}
  catalog : CatalogSettings := {}
  grid : Grid := {}
  thresholds : Thresholds := {}
  failures : FailurePolicy := {}
  naming : NamingSettings := {}
  notes : NoteSettings := {}
  workflow : WorkflowDefaults := {}
  recognizedCredentials : List String :=
    ["openAiApi", "slackApi", "discordWebhookApi", "postgres", "smtp", "imap", "httpHeaderAuth"]
  output : OutputSettings := {}

end WorkflowSynthesis
