import WorkflowSynthesis.Json.Fields
import WorkflowSynthesis.Json.Reader
import WorkflowSynthesis.Settings.Basic

/-! Settings from documents. A field that is absent has its standard value. -/

namespace WorkflowSynthesis

open Document (bool? text? word32? word64? signed64? real? list? pair? optional? dictionary? labels? members?)

def Trigger.ofDocument? : Document → Option Trigger := Document.choice? Trigger.all Trigger.key

def Role.ofDocument? : Document → Option Role := Document.choice? Role.all Role.name

def TriggerPattern.ofDocument? (document : Document) : Option TriggerPattern := do
  let fields ← document.fields? ["trigger", "pattern"]
  return {
    trigger := ← fields.required "trigger" Trigger.ofDocument?
    pattern := ← fields.required "pattern" text? }

def VocabularySettings.ofDocument? (document : Document) : Option VocabularySettings := do
  let fields ← document.fields? [
    "triggerKeywords", "actionKeywords", "conditionKeywords", "dataOpKeywords", "actionPriority",
    "defaultAction", "triggerPatterns", "defaultTrigger", "services", "verbDefaults", "conditionKeys",
    "urlPattern", "emailPattern", "timePattern"]
  let standard : VocabularySettings := {}
  return {
    triggerKeywords := ← fields.orElse "triggerKeywords" (list? text?) standard.triggerKeywords
    actionKeywords := ← fields.orElse "actionKeywords" (list? text?) standard.actionKeywords
    conditionKeywords := ← fields.orElse "conditionKeywords" (list? text?) standard.conditionKeywords
    dataOpKeywords := ← fields.orElse "dataOpKeywords" (list? text?) standard.dataOpKeywords
    actionPriority := ← fields.orElse "actionPriority" (list? text?) standard.actionPriority
    defaultAction := ← fields.orElse "defaultAction" text? standard.defaultAction
    triggerPatterns := ←
      fields.orElse "triggerPatterns" (list? TriggerPattern.ofDocument?) standard.triggerPatterns
    defaultTrigger := ← fields.orElse "defaultTrigger" Trigger.ofDocument? standard.defaultTrigger
    services := ← fields.orElse "services" (dictionary? text?) standard.services
    verbDefaults := ← fields.orElse "verbDefaults" (dictionary? text?) standard.verbDefaults
    conditionKeys := ← fields.orElse "conditionKeys" (dictionary? text?) standard.conditionKeys
    urlPattern := ← fields.orElse "urlPattern" text? standard.urlPattern
    emailPattern := ← fields.orElse "emailPattern" text? standard.emailPattern
    timePattern := ← fields.orElse "timePattern" text? standard.timePattern }

def CatalogEntry.ofDocument? (room : Nat) (document : Document) : Option CatalogEntry := do
  let fields ← document.fields? [
    "nodeType", "typeVersion", "displayName", "role", "defaultParameters", "requiredFields",
    "credentialType", "outputs", "errorOutput", "mayFail"]
  return {
    nodeType := ← fields.required "nodeType" text?
    typeVersion := ← fields.orElse "typeVersion" real? (Binary64.small 1)
    displayName := ← fields.required "displayName" text?
    role := ← fields.required "role" Role.ofDocument?
    defaultParameters := ← fields.orElse "defaultParameters" (members? room) []
    requiredFields := ← fields.orElse "requiredFields" (list? text?) []
    credentialType := ← fields.orElse "credentialType" (optional? text?) none
    outputs := ← fields.orElse "outputs" word32? 1
    errorOutput := ← fields.orElse "errorOutput" bool? false
    mayFail := ← fields.orElse "mayFail" bool? false }

def CatalogSettings.ofDocument? (room : Nat) (document : Document) : Option CatalogSettings := do
  let fields ← document.fields? ["fallback", "entries"]
  let standard : CatalogSettings := {}
  return {
    fallback := ← fields.orElse "fallback" text? standard.fallback
    entries := ← fields.orElse "entries" (dictionary? (CatalogEntry.ofDocument? room)) standard.entries }

def Grid.ofDocument? (document : Document) : Option Grid := do
  let fields ← document.fields? ["origin", "horizontalSpacing", "verticalSpacing"]
  let standard : Grid := {}
  return {
    origin := ← fields.orElse "origin" (pair? signed64?) standard.origin
    horizontalSpacing := ← fields.orElse "horizontalSpacing" signed64? standard.horizontalSpacing
    verticalSpacing := ← fields.orElse "verticalSpacing" signed64? standard.verticalSpacing }

def Thresholds.ofDocument? (document : Document) : Option Thresholds := do
  let fields ← document.fields? ["minimumNodes", "maximumNodes", "requiredDocumentation", "credentialValidation"]
  let standard : Thresholds := {}
  return {
    minimumNodes := ← fields.orElse "minimumNodes" word64? standard.minimumNodes
    maximumNodes := ← fields.orElse "maximumNodes" word64? standard.maximumNodes
    requiredDocumentation := ← fields.orElse "requiredDocumentation" bool? standard.requiredDocumentation
    credentialValidation := ← fields.orElse "credentialValidation" bool? standard.credentialValidation }

def FailurePattern.ofDocument? (room : Nat) (document : Document) : Option FailurePattern := do
  let fields ← document.fields? ["nodeType", "typeVersion", "parameters"]
  return {
    nodeType := ← fields.required "nodeType" text?
    typeVersion := ← fields.orElse "typeVersion" real? (Binary64.small 1)
    parameters := ← fields.orElse "parameters" (members? room) [] }

def FailurePolicy.ofDocument? (room : Nat) (document : Document) : Option FailurePolicy := do
  let fields ← document.fields? ["enabled", "pattern", "patterns", "errorOutputMode"]
  let standard : FailurePolicy := {}
  return {
    enabled := ← fields.orElse "enabled" bool? standard.enabled
    pattern := ← fields.orElse "pattern" text? standard.pattern
    patterns := ← fields.orElse "patterns" (dictionary? (FailurePattern.ofDocument? room)) standard.patterns
    errorOutputMode := ← fields.orElse "errorOutputMode" text? standard.errorOutputMode }

def NamingSettings.ofDocument? (document : Document) : Option NamingSettings := do
  let fields ← document.fields? [
    "maxLength", "pattern", "workflowNameWords", "workflowNameSuffix", "fallbackWorkflowName"]
  let standard : NamingSettings := {}
  return {
    maxLength := ← fields.orElse "maxLength" word64? standard.maxLength
    pattern := ← fields.orElse "pattern" text? standard.pattern
    workflowNameWords := ← fields.orElse "workflowNameWords" word64? standard.workflowNameWords
    workflowNameSuffix := ← fields.orElse "workflowNameSuffix" text? standard.workflowNameSuffix
    fallbackWorkflowName := ← fields.orElse "fallbackWorkflowName" text? standard.fallbackWorkflowName }

def NoteSettings.ofDocument? (document : Document) : Option NoteSettings := do
  let fields ← document.fields? ["colors", "defaultColor", "noteWidth", "noteHeight"]
  let standard : NoteSettings := {}
  return {
    colors := ← fields.orElse "colors" (dictionary? text?) standard.colors
    defaultColor := ← fields.orElse "defaultColor" text? standard.defaultColor
    noteWidth := ← fields.orElse "noteWidth" word32? standard.noteWidth
    noteHeight := ← fields.orElse "noteHeight" word32? standard.noteHeight }

def WorkflowDefaults.ofDocument? (document : Document) : Option WorkflowDefaults := do
  let fields ← document.fields? ["active", "executionOrder", "tags"]
  let standard : WorkflowDefaults := {}
  return {
    active := ← fields.orElse "active" bool? standard.active
    executionOrder := ← fields.orElse "executionOrder" text? standard.executionOrder
    tags := ← fields.orElse "tags" labels? standard.tags }

def OutputSettings.ofDocument? (document : Document) : Option OutputSettings := do
  let fields ← document.fields? ["jsonIndentation"]
  let standard : OutputSettings := {}
  return { jsonIndentation := ← fields.orElse "jsonIndentation" word64? standard.jsonIndentation }

namespace Settings

/-- How deep the parameters of an entry may nest in settings: four brackets are open around them. -/
def parameterRoom : Nat := maximumDepth - 4

def ofDocument? (document : Document) : Option Settings := do
  let fields ← document.fields? [
    "taxonomy", "catalog", "layout", "quality", "errorHandling", "naming", "documentation", "workflow",
    "recognizedCredentials", "output"]
  let standard : Settings := {}
  return {
    vocabulary := ← fields.orElse "taxonomy" VocabularySettings.ofDocument? standard.vocabulary
    catalog := ← fields.orElse "catalog" (CatalogSettings.ofDocument? parameterRoom) standard.catalog
    grid := ← fields.orElse "layout" Grid.ofDocument? standard.grid
    thresholds := ← fields.orElse "quality" Thresholds.ofDocument? standard.thresholds
    failures := ← fields.orElse "errorHandling" (FailurePolicy.ofDocument? parameterRoom) standard.failures
    naming := ← fields.orElse "naming" NamingSettings.ofDocument? standard.naming
    notes := ← fields.orElse "documentation" NoteSettings.ofDocument? standard.notes
    workflow := ← fields.orElse "workflow" WorkflowDefaults.ofDocument? standard.workflow
    recognizedCredentials := ←
      fields.orElse "recognizedCredentials" (list? text?) standard.recognizedCredentials
    output := ← fields.orElse "output" OutputSettings.ofDocument? standard.output }

def parse? (text : String) : Option Settings := (Document.parse? text).bind ofDocument?

end Settings

end WorkflowSynthesis
