import WorkflowSynthesis.Configuration.Basic
import WorkflowSynthesis.Proofs.Settings.Excerpt

/-!
Settings that are written and read again. They are read as they were, and where sections or fields are missing from
the text, the standard ones take their place.
-/

namespace WorkflowSynthesis

section Writing

theorem TriggerPattern.proper_toJson (rule : TriggerPattern) : rule.toJson.Proper :=
  Json.proper_object (by simp [Members.keys]) (by simp)

theorem VocabularySettings.proper_toJson (settings : VocabularySettings) : settings.toJson.Proper := by
  have rules : (Json.list TriggerPattern.toJson settings.triggerPatterns).Proper :=
    Json.proper_list fun rule _ => rule.proper_toJson
  have texts (dictionary : Dictionary String) : (dictionary.toJson .text).Proper :=
    Dictionary.proper_toJson fun _ _ => trivial
  exact Json.proper_object (by simp [Members.keys]) (by simp [rules, texts])

theorem CatalogEntry.proper_toJson {entry : CatalogEntry} (proper : (Json.object entry.defaultParameters).Proper) :
    entry.toJson.Proper := by
  have credential : (Json.optional .text entry.credentialType).Proper := by
    cases entry.credentialType <;> trivial
  exact Json.proper_object (by simp [Members.keys]) (by simp [proper, credential])

theorem FailurePattern.proper_toJson {pattern : FailurePattern} (proper : (Json.object pattern.parameters).Proper) :
    pattern.toJson.Proper :=
  Json.proper_object (by simp [Members.keys]) (by simp [proper])

theorem Grid.proper_toJson (grid : Grid) : grid.toJson.Proper := by
  have origin : (Json.array [.signed grid.origin.1, .signed grid.origin.2]).Proper := Json.properItems_iff.mpr (by simp)
  exact Json.proper_object (by simp [Members.keys]) (by simp [origin])

theorem Thresholds.proper_toJson (thresholds : Thresholds) : thresholds.toJson.Proper :=
  Json.proper_object (by simp [Members.keys]) (by simp)

theorem NamingSettings.proper_toJson (settings : NamingSettings) : settings.toJson.Proper :=
  Json.proper_object (by simp [Members.keys]) (by simp)

theorem NoteSettings.proper_toJson (settings : NoteSettings) : settings.toJson.Proper := by
  have colors : (settings.colors.toJson .text).Proper := Dictionary.proper_toJson fun _ _ => trivial
  exact Json.proper_object (by simp [Members.keys]) (by simp [colors])

theorem WorkflowDefaults.proper_toJson (defaults : WorkflowDefaults) : defaults.toJson.Proper := by
  have tags : defaults.tags.toJson.Proper := Json.proper_texts _
  exact Json.proper_object (by simp [Members.keys]) (by simp [tags])

theorem OutputSettings.proper_toJson (settings : OutputSettings) : settings.toJson.Proper :=
  Json.proper_object (by simp [Members.keys]) (by simp)

end Writing

namespace Settings

/-- Whether the parameters in catalog entries and failure patterns are proper, as in all settings that are held. -/
structure Proper (settings : Settings) : Prop where
  entries : ∀ entry ∈ settings.catalog.entries.entries, (Json.object entry.2.defaultParameters).Proper
  patterns : ∀ entry ∈ settings.failures.patterns.entries, (Json.object entry.2.parameters).Proper

/-- What is left of settings if only certain sections are kept, and only certain fields of each section. -/
def restrict (sections : String → Bool) (fields : String → String → Bool) (settings : Settings) : Settings :=
  let standard : Settings := {}
  { vocabulary := if sections "taxonomy" then settings.vocabulary.restrict (fields "taxonomy") else standard.vocabulary
    catalog := if sections "catalog" then settings.catalog.restrict (fields "catalog") else standard.catalog
    grid := if sections "layout" then settings.grid.restrict (fields "layout") else standard.grid
    thresholds := if sections "quality" then settings.thresholds.restrict (fields "quality") else standard.thresholds
    failures :=
      if sections "errorHandling" then settings.failures.restrict (fields "errorHandling") else standard.failures
    naming := if sections "naming" then settings.naming.restrict (fields "naming") else standard.naming
    notes := if sections "documentation" then settings.notes.restrict (fields "documentation") else standard.notes
    workflow := if sections "workflow" then settings.workflow.restrict (fields "workflow") else standard.workflow
    recognizedCredentials :=
      if sections "recognizedCredentials" then settings.recognizedCredentials else standard.recognizedCredentials
    output := if sections "output" then settings.output.restrict (fields "output") else standard.output }

theorem proper_toJson {settings : Settings} (proper : settings.Proper) : settings.toJson.Proper := by
  have catalog : settings.catalog.toJson.Proper := by
    have entries : (settings.catalog.entries.toJson CatalogEntry.toJson).Proper :=
      Dictionary.proper_toJson fun entry member => CatalogEntry.proper_toJson (proper.entries entry member)
    exact Json.proper_object (by simp [Members.keys]) (by simp [entries])
  have failures : settings.failures.toJson.Proper := by
    have patterns : (settings.failures.patterns.toJson FailurePattern.toJson).Proper :=
      Dictionary.proper_toJson fun entry member => FailurePattern.proper_toJson (proper.patterns entry member)
    exact Json.proper_object (by simp [Members.keys]) (by simp [patterns])
  exact Json.proper_object (by simp [Members.keys])
    (by simp [catalog, failures, settings.vocabulary.proper_toJson, settings.grid.proper_toJson,
      settings.thresholds.proper_toJson, settings.naming.proper_toJson, settings.notes.proper_toJson,
      settings.workflow.proper_toJson, settings.output.proper_toJson])

/-- The parameters of a catalog entry stand four brackets deep. -/
theorem depth_defaultParameters_le {settings : Settings} {room : Nat} (shallow : settings.toJson.depth ≤ room + 4) :
    ∀ entry ∈ settings.catalog.entries.entries, (Json.object entry.2.defaultParameters).depth ≤ room := by
  intro entry member
  rw [toJson, Json.depth_object_le_iff] at shallow
  have catalog := shallow ("catalog", settings.catalog.toJson) (by simp)
  rw [CatalogSettings.toJson, Json.depth_object_le_iff] at catalog
  have entries := catalog ("entries", settings.catalog.entries.toJson CatalogEntry.toJson) (by simp)
  rw [Dictionary.toJson, Json.depth_object_le_iff, List.forall_mem_map] at entries
  have written := entries entry member
  rw [CatalogEntry.toJson, Json.depth_object_le_iff] at written
  exact written ("defaultParameters", .object entry.2.defaultParameters) (by simp)

/-- So do those of a failure pattern. -/
theorem depth_parameters_le {settings : Settings} {room : Nat} (shallow : settings.toJson.depth ≤ room + 4) :
    ∀ entry ∈ settings.failures.patterns.entries, (Json.object entry.2.parameters).depth ≤ room := by
  intro entry member
  rw [toJson, Json.depth_object_le_iff] at shallow
  have failures := shallow ("errorHandling", settings.failures.toJson) (by simp)
  rw [FailurePolicy.toJson, Json.depth_object_le_iff] at failures
  have patterns := failures ("patterns", settings.failures.patterns.toJson FailurePattern.toJson) (by simp)
  rw [Dictionary.toJson, Json.depth_object_le_iff, List.forall_mem_map] at patterns
  have written := patterns entry member
  rw [FailurePattern.toJson, Json.depth_object_le_iff] at written
  exact written ("parameters", .object entry.2.parameters) (by simp)

variable (sections : String → Bool) (fields : String → String → Bool)

theorem ofDocument?_restrict {settings : Settings} (proper : settings.Proper)
    (shallow : settings.toJson.depth ≤ maximumDepth) :
    ofDocument? (.ofJson ((settings.toJson.restrictEach fields).restrict sections)) =
      some (settings.restrict sections fields) := by
  have vocabulary := settings.vocabulary.ofDocument?_restrict (fields "taxonomy")
  have catalog := CatalogSettings.ofDocument?_restrict (fields "catalog") proper.entries
    (@depth_defaultParameters_le settings parameterRoom shallow)
  have grid := settings.grid.ofDocument?_restrict (fields "layout")
  have thresholds := settings.thresholds.ofDocument?_restrict (fields "quality")
  have failures := FailurePolicy.ofDocument?_restrict (fields "errorHandling") proper.patterns
    (@depth_parameters_le settings parameterRoom shallow)
  have naming := settings.naming.ofDocument?_restrict (fields "naming")
  have notes := settings.notes.ofDocument?_restrict (fields "documentation")
  have workflow := settings.workflow.ofDocument?_restrict (fields "workflow")
  have output := settings.output.ofDocument?_restrict (fields "output")
  have credentials : (Json.texts settings.recognizedCredentials).restrict (fields "recognizedCredentials") =
    .texts settings.recognizedCredentials := rfl
  rw [ofDocument?, toJson, Json.restrictEach,
    Document.fields?_restrict (by simp [Members.keys]) (by simp [Members.keys]) sections, Option.bind_eq_bind,
    Option.bind_some]
  simp [Fields.orElse_filter, ← apply_ite some, restrict, vocabulary, catalog, grid, thresholds, failures, naming,
    notes, workflow, output, credentials]

/-- What is left of settings that were written is read as the settings that are left. -/
theorem parse?_restrict {settings : Settings} (proper : settings.Proper) (exact' : settings.toJson.Exact)
    (shallow : settings.toJson.depth ≤ maximumDepth) (layout : Json.Layout) :
    parse? (String.ofList (Json.write layout 0 ((settings.toJson.restrictEach fields).restrict sections))) =
      some (settings.restrict sections fields) := by
  have whole := Json.reread_of_exact (proper_toJson proper) exact'
  have left : ∀ number ∈ ((settings.toJson.restrictEach fields).restrict sections).numbers,
      number.reread = some number := by
    intro number held
    have each := Json.numbers_restrict_subset (settings.toJson.restrictEach fields) sections held
    exact whole number (Json.numbers_restrictEach_subset settings.toJson fields each)
  rw [parse?, Document.parse?_write, Option.bind_some, Json.stated_eq_ofJson left]
  exact ofDocument?_restrict sections fields proper shallow

theorem restrictEach_all (settings : Settings) :
    (settings.toJson.restrictEach fun _ _ => true).restrict (fun _ => true) = settings.toJson := by
  have each : ∀ value : Json, value.restrict (fun _ => true) = value := by
    intro value
    cases value <;> simp [Json.restrict]
  rw [each, toJson, Json.restrictEach]
  simp [each]

/-- Settings whose real numbers are read as they were written, and that do not nest too deep, are read from their own
text, however it is laid out, so that every engine of patterns configures the text like them. From a text in which sections are missing, or
fields of sections, the settings are read with the standard values of what is missing. -/
theorem parse?_written (settings : Settings) (proper : settings.Proper) (exact' : settings.toJson.Exact)
    (shallow : settings.toJson.depth ≤ maximumDepth) (layout : Json.Layout) :
    parse? (String.ofList (Json.write layout 0 settings.toJson)) = some settings ∧
    (∀ engine, Configuration.ofText (String.ofList (Json.write layout 0 settings.toJson)) engine =
      Configuration.ofSettings settings engine) ∧
    ∀ (sections : String → Bool) (fields : String → String → Bool),
      parse? (String.ofList (Json.write layout 0 ((settings.toJson.restrictEach fields).restrict sections))) =
        some (settings.restrict sections fields) := by
  have read : parse? (String.ofList (Json.write layout 0 settings.toJson)) = some settings := by
    have all := parse?_restrict (fun _ => true) (fun _ _ => true) proper exact' shallow layout
    rwa [restrictEach_all] at all
  refine ⟨read, fun engine => ?_, fun sections fields => parse?_restrict sections fields proper exact' shallow layout⟩
  rw [Configuration.ofText, read]

/-- Settings for workflows that wait one and a half hours wherever nothing better is known. -/
def patient : Settings where
  catalog := {
    fallback := "wait"
    entries := .ofList [("wait", {
      nodeType := "n8n-nodes-base.wait"
      displayName := "Wait"
      role := .action
      defaultParameters :=
        [("amount", .real { negative := false, code := 0x3ff8000000000000 }), ("unit", .text "hours")] })] }
  failures := { pattern := "rest", patterns := .ofList [("rest", { nodeType := "n8n-nodes-base.noOp" })] }
  naming := { workflowNameSuffix := "Rota" }

theorem parse?_written_patient : patient.Proper ∧ patient.toJson.Exact ∧ patient.toJson.depth ≤ maximumDepth ∧
    parse? patient.toJson.compact = some patient ∧
    Configuration.ofText (patient.toJson.pretty 2) = Configuration.ofSettings patient ∧
    parse? ((patient.toJson.restrictEach fun _ field => field != "fallback").restrict (· != "naming")).compact =
      some { patient with catalog := { patient.catalog with fallback := "code" }, naming := {} } := by
  have proper : patient.Proper := by
    refine ⟨?_, ?_⟩ <;> decide +kernel
  have exact' : patient.toJson.Exact := by
    have reread : ∀ number ∈ patient.toJson.numbers, number.reread = some number := by decide +kernel
    exact fun real member => reread _ member
  have shallow : patient.toJson.depth ≤ maximumDepth := by decide +kernel
  obtain ⟨compact, _, left⟩ := parse?_written patient proper exact' shallow .compact
  obtain ⟨_, configured, _⟩ := parse?_written patient proper exact' shallow (.indented 2)
  refine ⟨proper, exact', shallow, compact, configured .standard, ?_⟩
  exact left (· != "naming") fun _ field => field != "fallback"

end Settings

end WorkflowSynthesis
