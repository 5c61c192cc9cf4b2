import WorkflowSynthesis.Settings.Basic

/-! Settings as JSON. Every field is written, in a fixed order. -/

namespace WorkflowSynthesis

def Dictionary.toJson {α : Type} (write : α → Json) (dictionary : Dictionary α) : Json :=
  .object (dictionary.entries.map fun entry => (entry.1, write entry.2))

def Labels.toJson (labels : Labels) : Json := .texts (Dictionary.keys labels)

def TriggerPattern.toJson (rule : TriggerPattern) : Json :=
  .object [("trigger", .text rule.trigger.key), ("pattern", .text rule.pattern)]

def VocabularySettings.toJson (settings : VocabularySettings) : Json := .object [
  ("triggerKeywords", .texts settings.triggerKeywords),
  ("actionKeywords", .texts settings.actionKeywords),
  ("conditionKeywords", .texts settings.conditionKeywords),
  ("dataOpKeywords", .texts settings.dataOpKeywords),
  ("actionPriority", .texts settings.actionPriority),
  ("defaultAction", .text settings.defaultAction),
  ("triggerPatterns", .list TriggerPattern.toJson settings.triggerPatterns),
  ("defaultTrigger", .text settings.defaultTrigger.key),
  ("services", settings.services.toJson .text),
  ("verbDefaults", settings.verbDefaults.toJson .text),
  ("conditionKeys", settings.conditionKeys.toJson .text),
  ("urlPattern", .text settings.urlPattern),
  ("emailPattern", .text settings.emailPattern),
  ("timePattern", .text settings.timePattern)]

def CatalogEntry.toJson (entry : CatalogEntry) : Json := .object [
  ("nodeType", .text entry.nodeType),
  ("typeVersion", .real entry.typeVersion),
  ("displayName", .text entry.displayName),
  ("role", .text entry.role.name),
  ("defaultParameters", .object entry.defaultParameters),
  ("requiredFields", .texts entry.requiredFields),
  ("credentialType", .optional .text entry.credentialType),
  ("outputs", .nat entry.outputs.toNat),
  ("errorOutput", .bool entry.errorOutput),
  ("mayFail", .bool entry.mayFail)]

def CatalogSettings.toJson (settings : CatalogSettings) : Json := .object [
  ("fallback", .text settings.fallback),
  ("entries", settings.entries.toJson CatalogEntry.toJson)]

def Grid.toJson (grid : Grid) : Json := .object [
  ("origin", .array [.signed grid.origin.1, .signed grid.origin.2]),
  ("horizontalSpacing", .signed grid.horizontalSpacing),
  ("verticalSpacing", .signed grid.verticalSpacing)]

def Thresholds.toJson (thresholds : Thresholds) : Json := .object [
  ("minimumNodes", .nat thresholds.minimumNodes.toNat),
  ("maximumNodes", .nat thresholds.maximumNodes.toNat),
  ("requiredDocumentation", .bool thresholds.requiredDocumentation),
  ("credentialValidation", .bool thresholds.credentialValidation)]

def FailurePattern.toJson (pattern : FailurePattern) : Json := .object [
  ("nodeType", .text pattern.nodeType),
  ("typeVersion", .real pattern.typeVersion),
  ("parameters", .object pattern.parameters)]

def FailurePolicy.toJson (policy : FailurePolicy) : Json := .object [
  ("enabled", .bool policy.enabled),
  ("pattern", .text policy.pattern),
  ("patterns", policy.patterns.toJson FailurePattern.toJson),
  ("errorOutputMode", .text policy.errorOutputMode)]

def NamingSettings.toJson (settings : NamingSettings) : Json := .object [
  ("maxLength", .nat settings.maxLength.toNat),
  ("pattern", .text settings.pattern),
  ("workflowNameWords", .nat settings.workflowNameWords.toNat),
  ("workflowNameSuffix", .text settings.workflowNameSuffix),
  ("fallbackWorkflowName", .text settings.fallbackWorkflowName)]

def NoteSettings.toJson (settings : NoteSettings) : Json := .object [
  ("colors", settings.colors.toJson .text),
  ("defaultColor", .text settings.defaultColor),
  ("noteWidth", .nat settings.noteWidth.toNat),
  ("noteHeight", .nat settings.noteHeight.toNat)]

def WorkflowDefaults.toJson (defaults : WorkflowDefaults) : Json := .object [
  ("active", .bool defaults.active),
  ("executionOrder", .text defaults.executionOrder),
  ("tags", defaults.tags.toJson)]

def OutputSettings.toJson (settings : OutputSettings) : Json :=
  .object [("jsonIndentation", .nat settings.jsonIndentation.toNat)]

def Settings.toJson (settings : Settings) : Json := .object [
  ("taxonomy", settings.vocabulary.toJson),
  ("catalog", settings.catalog.toJson),
  ("layout", settings.grid.toJson),
  ("quality", settings.thresholds.toJson),
  ("errorHandling", settings.failures.toJson),
  ("naming", settings.naming.toJson),
  ("documentation", settings.notes.toJson),
  ("workflow", settings.workflow.toJson),
  ("recognizedCredentials", .texts settings.recognizedCredentials),
  ("output", settings.output.toJson)]

end WorkflowSynthesis
