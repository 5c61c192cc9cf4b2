import WorkflowSynthesis.Proofs.Json.Excerpt
import WorkflowSynthesis.Settings.Reader

/-!
Sections of settings from which fields are missing. What is read has the fields that were written, and the standard
values of the others.
-/

namespace WorkflowSynthesis

section Excerpts

/-! What is left of each section if only the fields with certain names are kept. -/

def VocabularySettings.restrict (kept : String → Bool) (settings : VocabularySettings) : VocabularySettings :=
  let standard : VocabularySettings := {}
  { triggerKeywords := if kept "triggerKeywords" then settings.triggerKeywords else standard.triggerKeywords
    actionKeywords := if kept "actionKeywords" then settings.actionKeywords else standard.actionKeywords
    conditionKeywords :=
      if kept "conditionKeywords" then settings.conditionKeywords else standard.conditionKeywords
    dataOpKeywords := if kept "dataOpKeywords" then settings.dataOpKeywords else standard.dataOpKeywords
    actionPriority := if kept "actionPriority" then settings.actionPriority else standard.actionPriority
    defaultAction := if kept "defaultAction" then settings.defaultAction else standard.defaultAction
    triggerPatterns := if kept "triggerPatterns" then settings.triggerPatterns else standard.triggerPatterns
    defaultTrigger := if kept "defaultTrigger" then settings.defaultTrigger else standard.defaultTrigger
    services := if kept "services" then settings.services else standard.services
    verbDefaults := if kept "verbDefaults" then settings.verbDefaults else standard.verbDefaults
    conditionKeys := if kept "conditionKeys" then settings.conditionKeys else standard.conditionKeys
    urlPattern := if kept "urlPattern" then settings.urlPattern else standard.urlPattern
    emailPattern := if kept "emailPattern" then settings.emailPattern else standard.emailPattern
    timePattern := if kept "timePattern" then settings.timePattern else standard.timePattern }

def CatalogSettings.restrict (kept : String → Bool) (settings : CatalogSettings) : CatalogSettings :=
  let standard : CatalogSettings := {}
  { fallback := if kept "fallback" then settings.fallback else standard.fallback
    entries := if kept "entries" then settings.entries else standard.entries }

def Grid.restrict (kept : String → Bool) (grid : Grid) : Grid :=
  let standard : Grid := {}
  { origin := if kept "origin" then grid.origin else standard.origin
    horizontalSpacing := if kept "horizontalSpacing" then grid.horizontalSpacing else standard.horizontalSpacing
    verticalSpacing := if kept "verticalSpacing" then grid.verticalSpacing else standard.verticalSpacing }

def Thresholds.restrict (kept : String → Bool) (thresholds : Thresholds) : Thresholds :=
  let standard : Thresholds := {}
  { minimumNodes := if kept "minimumNodes" then thresholds.minimumNodes else standard.minimumNodes
    maximumNodes := if kept "maximumNodes" then thresholds.maximumNodes else standard.maximumNodes
    requiredDocumentation :=
      if kept "requiredDocumentation" then thresholds.requiredDocumentation else standard.requiredDocumentation
    credentialValidation :=
      if kept "credentialValidation" then thresholds.credentialValidation else standard.credentialValidation }

def FailurePolicy.restrict (kept : String → Bool) (policy : FailurePolicy) : FailurePolicy :=
  let standard : FailurePolicy := {}
  { enabled := if kept "enabled" then policy.enabled else standard.enabled
    pattern := if kept "pattern" then policy.pattern else standard.pattern
    patterns := if kept "patterns" then policy.patterns else standard.patterns
    errorOutputMode := if kept "errorOutputMode" then policy.errorOutputMode else standard.errorOutputMode }

def NamingSettings.restrict (kept : String → Bool) (settings : NamingSettings) : NamingSettings :=
  let standard : NamingSettings := {}
  { maxLength := if kept "maxLength" then settings.maxLength else standard.maxLength
    pattern := if kept "pattern" then settings.pattern else standard.pattern
    workflowNameWords :=
      if kept "workflowNameWords" then settings.workflowNameWords else standard.workflowNameWords
    workflowNameSuffix :=
      if kept "workflowNameSuffix" then settings.workflowNameSuffix else standard.workflowNameSuffix
    fallbackWorkflowName :=
      if kept "fallbackWorkflowName" then settings.fallbackWorkflowName else standard.fallbackWorkflowName }

def NoteSettings.restrict (kept : String → Bool) (settings : NoteSettings) : NoteSettings :=
  let standard : NoteSettings := {}
  { colors := if kept "colors" then settings.colors else standard.colors
    defaultColor := if kept "defaultColor" then settings.defaultColor else standard.defaultColor
    noteWidth := if kept "noteWidth" then settings.noteWidth else standard.noteWidth
    noteHeight := if kept "noteHeight" then settings.noteHeight else standard.noteHeight }

def WorkflowDefaults.restrict (kept : String → Bool) (defaults : WorkflowDefaults) : WorkflowDefaults :=
  let standard : WorkflowDefaults := {}
  { active := if kept "active" then defaults.active else standard.active
    executionOrder := if kept "executionOrder" then defaults.executionOrder else standard.executionOrder
    tags := if kept "tags" then defaults.tags else standard.tags }

def OutputSettings.restrict (kept : String → Bool) (settings : OutputSettings) : OutputSettings :=
  let standard : OutputSettings := {}
  { jsonIndentation := if kept "jsonIndentation" then settings.jsonIndentation else standard.jsonIndentation }

end Excerpts

section Parts

open Document (ofJson)

@[simp]
theorem Trigger.ofDocument?_key (trigger : Trigger) : ofDocument? (ofJson (.text trigger.key)) = some trigger := by
  cases trigger <;> decide

@[simp]
theorem Role.ofDocument?_name (role : Role) : ofDocument? (ofJson (.text role.name)) = some role := by
  cases role <;> decide

theorem TriggerPattern.ofDocument?_toJson (rule : TriggerPattern) : ofDocument? (ofJson rule.toJson) = some rule := by
  rw [ofDocument?, toJson, Document.fields?_object (by simp [Members.keys]) (by simp [Members.keys]),
    Option.bind_eq_bind, Option.bind_some]
  simp

theorem CatalogEntry.ofDocument?_toJson {entry : CatalogEntry} {room : Nat}
    (proper : (Json.object entry.defaultParameters).Proper)
    (shallow : (Json.object entry.defaultParameters).depth ≤ room) :
    ofDocument? room (ofJson entry.toJson) = some entry := by
  have parameters := Document.members?_object proper shallow
  rw [ofDocument?, toJson, Document.fields?_object (by simp [Members.keys]) (by simp [Members.keys]),
    Option.bind_eq_bind, Option.bind_some]
  simp [parameters]

theorem FailurePattern.ofDocument?_toJson {pattern : FailurePattern} {room : Nat}
    (proper : (Json.object pattern.parameters).Proper) (shallow : (Json.object pattern.parameters).depth ≤ room) :
    ofDocument? room (ofJson pattern.toJson) = some pattern := by
  have parameters := Document.members?_object proper shallow
  rw [ofDocument?, toJson, Document.fields?_object (by simp [Members.keys]) (by simp [Members.keys]),
    Option.bind_eq_bind, Option.bind_some]
  simp [parameters]

end Parts

section Sections

open Document (ofJson)

variable (kept : String → Bool)

theorem VocabularySettings.ofDocument?_restrict (settings : VocabularySettings) :
    ofDocument? (ofJson (settings.toJson.restrict kept)) = some (settings.restrict kept) := by
  have rules := Document.list?_list fun rule (_ : rule ∈ settings.triggerPatterns) => rule.ofDocument?_toJson
  rw [List.map_id'] at rules
  rw [ofDocument?, toJson, Document.fields?_restrict (by simp [Members.keys]) (by simp [Members.keys]) kept,
    Option.bind_eq_bind, Option.bind_some]
  simp [Fields.orElse_filter, ← apply_ite some, restrict, rules]

theorem CatalogSettings.ofDocument?_restrict {settings : CatalogSettings} {room : Nat}
    (proper : ∀ entry ∈ settings.entries.entries, (Json.object entry.2.defaultParameters).Proper)
    (shallow : ∀ entry ∈ settings.entries.entries, (Json.object entry.2.defaultParameters).depth ≤ room) :
    ofDocument? room (ofJson (settings.toJson.restrict kept)) = some (settings.restrict kept) := by
  have entries := Document.dictionary?_toJson fun entry (member : entry ∈ settings.entries.entries) =>
    CatalogEntry.ofDocument?_toJson (proper entry member) (shallow entry member)
  rw [ofDocument?, toJson, Document.fields?_restrict (by simp [Members.keys]) (by simp [Members.keys]) kept,
    Option.bind_eq_bind, Option.bind_some]
  simp [Fields.orElse_filter, ← apply_ite some, restrict, entries]

theorem Grid.ofDocument?_restrict (grid : Grid) :
    ofDocument? (ofJson (grid.toJson.restrict kept)) = some (grid.restrict kept) := by
  rw [ofDocument?, toJson, Document.fields?_restrict (by simp [Members.keys]) (by simp [Members.keys]) kept,
    Option.bind_eq_bind, Option.bind_some]
  simp [Fields.orElse_filter, ← apply_ite some, restrict]

theorem Thresholds.ofDocument?_restrict (thresholds : Thresholds) :
    ofDocument? (ofJson (thresholds.toJson.restrict kept)) = some (thresholds.restrict kept) := by
  rw [ofDocument?, toJson, Document.fields?_restrict (by simp [Members.keys]) (by simp [Members.keys]) kept,
    Option.bind_eq_bind, Option.bind_some]
  simp [Fields.orElse_filter, ← apply_ite some, restrict]

theorem FailurePolicy.ofDocument?_restrict {policy : FailurePolicy} {room : Nat}
    (proper : ∀ entry ∈ policy.patterns.entries, (Json.object entry.2.parameters).Proper)
    (shallow : ∀ entry ∈ policy.patterns.entries, (Json.object entry.2.parameters).depth ≤ room) :
    ofDocument? room (ofJson (policy.toJson.restrict kept)) = some (policy.restrict kept) := by
  have patterns := Document.dictionary?_toJson fun entry (member : entry ∈ policy.patterns.entries) =>
    FailurePattern.ofDocument?_toJson (proper entry member) (shallow entry member)
  rw [ofDocument?, toJson, Document.fields?_restrict (by simp [Members.keys]) (by simp [Members.keys]) kept,
    Option.bind_eq_bind, Option.bind_some]
  simp [Fields.orElse_filter, ← apply_ite some, restrict, patterns]

theorem NamingSettings.ofDocument?_restrict (settings : NamingSettings) :
    ofDocument? (ofJson (settings.toJson.restrict kept)) = some (settings.restrict kept) := by
  rw [ofDocument?, toJson, Document.fields?_restrict (by simp [Members.keys]) (by simp [Members.keys]) kept,
    Option.bind_eq_bind, Option.bind_some]
  simp [Fields.orElse_filter, ← apply_ite some, restrict]

theorem NoteSettings.ofDocument?_restrict (settings : NoteSettings) :
    ofDocument? (ofJson (settings.toJson.restrict kept)) = some (settings.restrict kept) := by
  rw [ofDocument?, toJson, Document.fields?_restrict (by simp [Members.keys]) (by simp [Members.keys]) kept,
    Option.bind_eq_bind, Option.bind_some]
  simp [Fields.orElse_filter, ← apply_ite some, restrict]

theorem WorkflowDefaults.ofDocument?_restrict (defaults : WorkflowDefaults) :
    ofDocument? (ofJson (defaults.toJson.restrict kept)) = some (defaults.restrict kept) := by
  rw [ofDocument?, toJson, Document.fields?_restrict (by simp [Members.keys]) (by simp [Members.keys]) kept,
    Option.bind_eq_bind, Option.bind_some]
  simp [Fields.orElse_filter, ← apply_ite some, restrict]

theorem OutputSettings.ofDocument?_restrict (settings : OutputSettings) :
    ofDocument? (ofJson (settings.toJson.restrict kept)) = some (settings.restrict kept) := by
  rw [ofDocument?, toJson, Document.fields?_restrict (by simp [Members.keys]) (by simp [Members.keys]) kept,
    Option.bind_eq_bind, Option.bind_some]
  simp [Fields.orElse_filter, ← apply_ite some, restrict]

end Sections

end WorkflowSynthesis
