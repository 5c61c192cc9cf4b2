import WorkflowSynthesis.Catalog.Entry

/-! The standard catalog. -/

namespace WorkflowSynthesis.StandardCatalog

def passThroughCode : String := "\n".intercalate [
  "// Process the input data",
  "const items = $input.all();",
  "",
  "// Your code here",
  "const processedItems = items.map(item => \x7b",
  "  return \x7b",
  "    json: \x7b",
  "      // Transform your data",
  "      ...item.json",
  "    \x7d",
  "  \x7d;",
  "\x7d);",
  "",
  "return processedItems;"]

def inputData : String := "=\x7b\x7b$json.data\x7d\x7d"

def dataIsNotEmpty : Members :=
  [("conditions", .object [
    ("string", .array [.object [("value1", .text inputData), ("operation", .text "isNotEmpty")]])])]

def triggers : List (String × CatalogEntry) := [
  ("schedule", {
    nodeType := "n8n-nodes-base.cron", displayName := "Schedule Trigger", role := .trigger
    defaultParameters :=
      [("triggerTimes", .object [("item", .array [.object [("mode", .text "everyDay")]])])]
    requiredFields := ["triggerTimes"] }),
  ("webhook", {
    nodeType := "n8n-nodes-base.webhook", displayName := "Webhook", role := .trigger
    typeVersion := Binary64.small 2
    defaultParameters :=
      [("httpMethod", .text "POST"), ("path", .text "/webhook"), ("responseMode", .text "onReceived")]
    requiredFields := ["httpMethod", "path"] }),
  ("email", {
    nodeType := "n8n-nodes-base.emailTrigger", displayName := "Email Trigger", role := .trigger
    defaultParameters := [("mailbox", .text "INBOX"), ("postProcessAction", .text "read")]
    requiredFields := ["mailbox"]
    credentialType := some "imap" }),
  ("form", {
    nodeType := "n8n-nodes-base.formTrigger", displayName := "Form Trigger", role := .trigger
    typeVersion := Binary64.small 2
    defaultParameters := [("formTitle", .text "Submission Form")]
    requiredFields := ["formTitle"] }),
  ("manual", { nodeType := "n8n-nodes-base.manualTrigger", displayName := "Manual Trigger", role := .trigger })]

def actions : List (String × CatalogEntry) := [
  ("send_email", {
    nodeType := "n8n-nodes-base.emailSend", displayName := "Send Email", role := .action
    typeVersion := Binary64.small 2
    defaultParameters := [("subject", .text "Workflow notification"), ("emailFormat", .text "text")]
    requiredFields := ["toEmail", "subject"]
    credentialType := some "smtp"
    mayFail := true, errorOutput := true }),
  ("http_request", {
    nodeType := "n8n-nodes-base.httpRequest", displayName := "HTTP Request", role := .action
    typeVersion := Binary64.small 4
    defaultParameters :=
      [("requestMethod", .text "GET"), ("timeout", .nat 10000), ("followRedirect", .bool true)]
    requiredFields := ["url", "requestMethod"]
    mayFail := true, errorOutput := true }),
  ("database", {
    nodeType := "n8n-nodes-base.postgres", displayName := "Postgres", role := .action
    typeVersion := Binary64.small 2
    defaultParameters := [("operation", .text "executeQuery")]
    requiredFields := ["query"]
    credentialType := some "postgres"
    mayFail := true, errorOutput := true }),
  ("slack", {
    nodeType := "n8n-nodes-base.slack", displayName := "Slack", role := .action
    typeVersion := Binary64.small 2
    defaultParameters := [("resource", .text "message"), ("operation", .text "post")]
    requiredFields := ["channel", "text"]
    credentialType := some "slackApi"
    mayFail := true, errorOutput := true }),
  ("discord", {
    nodeType := "n8n-nodes-base.discord", displayName := "Discord", role := .action
    typeVersion := Binary64.small 2
    requiredFields := ["text"]
    credentialType := some "discordWebhookApi"
    mayFail := true, errorOutput := true }),
  ("openai", {
    nodeType := "n8n-nodes-base.openAi", displayName := "OpenAI", role := .action
    defaultParameters := [
      ("resource", .text "complete"), ("model", .text "gpt-3.5-turbo"), ("maxTokens", .nat 1000),
      ("temperature", .number (.real ((Binary64.ofRatio? false 7 10).getD Binary64.zero)))]
    requiredFields := ["model", "prompt"]
    credentialType := some "openAiApi"
    mayFail := true, errorOutput := true }),
  ("code", {
    nodeType := "n8n-nodes-base.code", displayName := "Code", role := .action
    typeVersion := Binary64.small 2
    defaultParameters := [
      ("language", .text "javascript"), ("mode", .text "runOnceForAllItems"), ("jsCode", .text passThroughCode)] })]

def conditions : List (String × CatalogEntry) := [
  ("condition", {
    nodeType := "n8n-nodes-base.if", displayName := "If", role := .condition
    typeVersion := Binary64.small 2
    defaultParameters := dataIsNotEmpty
    requiredFields := ["conditions"]
    outputs := 2 }),
  ("filter", {
    nodeType := "n8n-nodes-base.filter", displayName := "Filter", role := .condition
    typeVersion := Binary64.small 2
    defaultParameters := dataIsNotEmpty
    requiredFields := ["conditions"] }),
  ("switch", {
    nodeType := "n8n-nodes-base.switch", displayName := "Switch", role := .condition
    typeVersion := Binary64.small 3
    defaultParameters := [("mode", .text "rules")]
    outputs := 4 })]

def fieldSetter (displayName : String) (includeOtherFields : Bool) : CatalogEntry := {
  nodeType := "n8n-nodes-base.set", displayName, role := .dataOp
  typeVersion := Binary64.small 3
  defaultParameters := [("mode", .text "manual"), ("includeOtherFields", .bool includeOtherFields)] }

def dataOps : List (String × CatalogEntry) := [
  ("transform", fieldSetter "Transform Data" true),
  ("map", fieldSetter "Map Fields" false),
  ("format", fieldSetter "Format Data" true),
  ("merge", {
    nodeType := "n8n-nodes-base.merge", displayName := "Merge", role := .dataOp
    typeVersion := Binary64.small 3
    defaultParameters := [("mode", .text "append")] }),
  ("split", {
    nodeType := "n8n-nodes-base.splitInBatches", displayName := "Split In Batches", role := .dataOp
    typeVersion := Binary64.small 3
    defaultParameters := [("batchSize", .nat 5)] }),
  ("aggregate", {
    nodeType := "n8n-nodes-base.aggregate", displayName := "Aggregate", role := .dataOp
    defaultParameters := [("aggregate", .text "aggregateAllItemData")] })]

def entries : List (String × CatalogEntry) := triggers ++ actions ++ conditions ++ dataOps

end WorkflowSynthesis.StandardCatalog
