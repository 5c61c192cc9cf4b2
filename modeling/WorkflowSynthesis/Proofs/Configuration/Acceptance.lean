import WorkflowSynthesis.Configuration.Basic
import WorkflowSynthesis.Proofs.Checks
import WorkflowSynthesis.Proofs.Dictionary

/-! What is known of a configuration because it was accepted, and when settings are. -/

namespace WorkflowSynthesis

namespace Catalog

/-- Every entry is sound by itself, every kind of trigger has its entry, and the fallback is an action. -/
structure Checked (catalog : Catalog) : Prop where
  entries : ∀ key entry, catalog.get? key = some entry → fault? entry = none
  triggers : ∀ trigger : Trigger, ∃ entry, catalog.get? trigger.key = some entry ∧ entry.role = .trigger
  fallback : catalog.get? catalog.fallbackKey = some catalog.fallback ∧ catalog.fallback.role = .action

theorem fault?_of_checkEntry {entry : String × CatalogEntry} (accepted : checkEntry entry = .ok ()) :
    fault? entry.2 = none := by
  unfold checkEntry at accepted
  split at accepted
  · cases accepted
  · assumption

theorem entry_of_checkTrigger {entries : Dictionary CatalogEntry} {trigger : Trigger}
    (accepted : checkTrigger entries trigger = .ok ()) :
    ∃ entry, entries.get? trigger.key = some entry ∧ entry.role = .trigger := by
  unfold checkTrigger at accepted
  split at accepted
  · cases accepted
  · next entry found =>
    split at accepted
    · next isTrigger => exact ⟨entry, found, isTrigger⟩
    · cases accepted

/-- All that is asked of the settings of a catalog, and what becomes of them. -/
theorem ofSettings_eq_ok {settings : CatalogSettings} {catalog : Catalog} :
    ofSettings settings = .ok catalog ↔
      (∀ entry ∈ settings.entries.entries, checkEntry entry = .ok ()) ∧
        (∀ trigger ∈ Trigger.all, checkTrigger settings.entries trigger = .ok ()) ∧
          ∃ fallback, settings.entries.get? settings.fallback = some fallback ∧ fallback.role = .action ∧
            catalog = { entries := settings.entries, fallbackKey := settings.fallback, fallback } := by
  unfold ofSettings
  simp only [Except.check_bind_eq_ok, Except.forM_eq_ok]
  refine and_congr_right fun _ => and_congr_right fun _ => ?_
  cases settings.entries.get? settings.fallback with
  | none => simp
  | some fallback =>
    by_cases isAction : fallback.role = .action
    · simp [isAction, eq_comm]
    · simp [isAction]

theorem checked_of_ofSettings {settings : CatalogSettings} {catalog : Catalog}
    (accepted : ofSettings settings = .ok catalog) : catalog.Checked := by
  obtain ⟨entries, triggers, fallback, found, isAction, rfl⟩ := ofSettings_eq_ok.mp accepted
  exact {
    entries := fun key entry held =>
      fault?_of_checkEntry (entries (key, entry) (Dictionary.get?_eq_some_iff.mp held))
    triggers := fun trigger => entry_of_checkTrigger (triggers trigger trigger.mem_all)
    fallback := ⟨found, isAction⟩ }

end Catalog

namespace Vocabulary

/-- A vocabulary with the words of the given settings, in lower case. -/
structure Follows (vocabulary : Vocabulary) (settings : VocabularySettings) : Prop where
  actionKeywords : vocabulary.actionKeywords = settings.actionKeywords.map Text.lowercase
  conditionKeywords : vocabulary.conditionKeywords = settings.conditionKeywords.map Text.lowercase
  dataOpKeywords : vocabulary.dataOpKeywords = settings.dataOpKeywords.map Text.lowercase
  actionPriority : vocabulary.actionPriority = settings.actionPriority.map Text.lowercase
  defaultAction : vocabulary.defaultAction = Text.lowercase settings.defaultAction
  services : vocabulary.services = lowercaseKeys settings.services
  verbDefaults : vocabulary.verbDefaults = lowercaseKeys settings.verbDefaults
  conditionKeys : vocabulary.conditionKeys = lowercaseKeys settings.conditionKeys

variable {settings : VocabularySettings} {engine : PatternEngine}

theorem compilePattern_eq_ok {use : PatternUse} {source : String} {pattern : Matcher} :
    compilePattern engine use source = .ok pattern ↔ engine source true = some pattern := by
  unfold compilePattern
  cases engine source true <;> simp

/-- What a vocabulary has of the settings that it was made from: their words, and the patterns that they spell. -/
structure Compiled (vocabulary : Vocabulary) (settings : VocabularySettings) (engine : PatternEngine) : Prop where
  follows : vocabulary.Follows settings
  rules : List.Forall₂ (fun spelled rule => rule.trigger = spelled.trigger ∧
    engine spelled.pattern true = some rule.pattern) settings.triggerPatterns vocabulary.triggerRules
  url : engine settings.urlPattern true = some vocabulary.url
  email : engine settings.emailPattern true = some vocabulary.email
  time : engine settings.timePattern true = some vocabulary.time

theorem compiled_of_ofSettings {vocabulary : Vocabulary} (accepted : ofSettings settings engine = .ok vocabulary) :
    vocabulary.Compiled settings engine := by
  unfold ofSettings at accepted
  obtain ⟨rules, rulesRead, accepted⟩ := Except.bind_eq_ok.mp accepted
  obtain ⟨url, urlRead, accepted⟩ := Except.bind_eq_ok.mp accepted
  obtain ⟨email, emailRead, accepted⟩ := Except.bind_eq_ok.mp accepted
  obtain ⟨time, timeRead, accepted⟩ := Except.bind_eq_ok.mp accepted
  cases accepted
  refine {
    follows := by constructor <;> rfl
    rules := (Except.mapM_eq_ok.mp rulesRead).imp fun spelled rule made => ?_
    url := compilePattern_eq_ok.mp urlRead
    email := compilePattern_eq_ok.mp emailRead
    time := compilePattern_eq_ok.mp timeRead }
  obtain ⟨pattern, compiled, made⟩ := Except.bind_eq_ok.mp made
  cases made
  exact ⟨rfl, compilePattern_eq_ok.mp compiled⟩

/-- The patterns of triggers and of times are those that the settings spell. -/
theorem patterns_of_ofSettings {vocabulary : Vocabulary} (accepted : ofSettings settings engine = .ok vocabulary) :
    (∀ rule ∈ vocabulary.triggerRules, ∃ spelled ∈ settings.triggerPatterns,
      engine spelled.pattern true = some rule.pattern) ∧
    engine settings.timePattern true = some vocabulary.time := by
  have compiled := compiled_of_ofSettings accepted
  refine ⟨fun rule member => ?_, compiled.time⟩
  obtain ⟨spelled, listed, _, read⟩ := Except.exists_of_mem_forall₂ compiled.rules member
  exact ⟨spelled, listed, read⟩

theorem exists_compilePattern (use : PatternUse) {source : String} (valid : (engine source true).isSome) :
    ∃ pattern, compilePattern engine use source = .ok pattern := by
  obtain ⟨pattern, found⟩ := Option.isSome_iff_exists.mp valid
  exact ⟨pattern, compilePattern_eq_ok.mpr found⟩

/-- Settings whose patterns can be read have a vocabulary. -/
theorem exists_ofSettings
    (rules : ∀ rule ∈ settings.triggerPatterns, (engine rule.pattern true).isSome)
    (url : (engine settings.urlPattern true).isSome) (email : (engine settings.emailPattern true).isSome)
    (time : (engine settings.timePattern true).isSome) : ∃ vocabulary, ofSettings settings engine = .ok vocabulary := by
  obtain ⟨urlPattern, urlRead⟩ := exists_compilePattern .url url
  obtain ⟨emailPattern, emailRead⟩ := exists_compilePattern .email email
  obtain ⟨timePattern, timeRead⟩ := exists_compilePattern .time time
  refine ⟨_, Except.bind_eq_ok.mpr ⟨_, Classical.choose_spec (Except.exists_mapM.mpr fun rule member => ?_),
    Except.bind_eq_ok.mpr ⟨urlPattern, urlRead, Except.bind_eq_ok.mpr ⟨emailPattern, emailRead,
      Except.bind_eq_ok.mpr ⟨timePattern, timeRead, rfl⟩⟩⟩⟩⟩
  obtain ⟨pattern, read⟩ := exists_compilePattern (.trigger rule.trigger) (rules rule member)
  exact ⟨_, Except.bind_eq_ok.mpr ⟨pattern, read, rfl⟩⟩

end Vocabulary

namespace NamingRules

theorem ofSettings_eq_ok {settings : NamingSettings} {engine : PatternEngine} {rules : NamingRules} :
    ofSettings settings engine = .ok rules ↔
      rules.settings = settings ∧ engine settings.pattern false = some rules.pattern := by
  obtain ⟨held, pattern⟩ := rules
  unfold ofSettings
  cases engine settings.pattern false <;> simp [eq_comm]

end NamingRules

theorem Grid.check_eq_ok {grid : Grid} :
    grid.check = .ok () ↔ 0 < grid.horizontalSpacing ∧ 0 < grid.verticalSpacing := by
  unfold Grid.check
  rw [← Int64.not_le, ← Int64.not_le]
  split
  · next narrow => simp [narrow]
  · next wide =>
    split
    · next flat => simp [flat]
    · next high => simp [wide, high]

theorem Thresholds.check_eq_ok {thresholds : Thresholds} :
    thresholds.check = .ok () ↔ thresholds.minimumNodes ≤ thresholds.maximumNodes := by
  unfold Thresholds.check
  rw [← UInt64.not_lt]
  split
  · next inverted => simp [inverted]
  · next ordered => simp [ordered]

theorem FailurePolicy.check_eq_ok {policy : FailurePolicy} :
    policy.check = .ok () ↔ policy.failurePattern?.isSome := by
  unfold FailurePolicy.check failurePattern?
  rw [← Dictionary.contains_eq_isSome]
  cases policy.patterns.contains policy.pattern <;> simp

namespace Configuration

variable {settings : Settings} {engine : PatternEngine} {configuration : Configuration}

/-- All that is asked of settings, and what becomes of them. -/
theorem ofSettings_eq_ok :
    ofSettings settings engine = .ok configuration ↔
      settings.grid.check = .ok () ∧ settings.thresholds.check = .ok () ∧ settings.failures.check = .ok () ∧
        ∃ vocabulary, Vocabulary.ofSettings settings.vocabulary engine = .ok vocabulary ∧
          ∃ catalog, Catalog.ofSettings settings.catalog = .ok catalog ∧
            ∃ naming, NamingRules.ofSettings settings.naming engine = .ok naming ∧
              configuration = {
                vocabulary, catalog, naming
                grid := settings.grid
                thresholds := settings.thresholds
                failures := settings.failures
                notes := settings.notes
                templates := .standard
                workflow := settings.workflow
                recognizedCredentials := settings.recognizedCredentials
                output := settings.output } := by
  unfold ofSettings
  rw [Except.check_bind_eq_ok, Except.check_bind_eq_ok, Except.check_bind_eq_ok]
  simp only [Except.bind_eq_ok, pure, Except.pure, Except.ok.injEq, @eq_comm _ configuration]

/-- What every accepted configuration has. -/
structure Checked (configuration : Configuration) : Prop where
  catalog : configuration.catalog.Checked
  failurePattern : configuration.failures.failurePattern?.isSome

theorem checked_of_ofSettings (accepted : ofSettings settings engine = .ok configuration) : configuration.Checked := by
  obtain ⟨_, _, failures, vocabulary, _, catalog, catalogAccepted, naming, _, rfl⟩ := ofSettings_eq_ok.mp accepted
  exact ⟨Catalog.checked_of_ofSettings catalogAccepted, FailurePolicy.check_eq_ok.mp failures⟩

theorem vocabulary_of_ofSettings (accepted : ofSettings settings engine = .ok configuration) :
    Vocabulary.ofSettings settings.vocabulary engine = .ok configuration.vocabulary := by
  obtain ⟨_, _, _, vocabulary, words, _, _, _, _, rfl⟩ := ofSettings_eq_ok.mp accepted
  exact words

theorem grid_check_of_ofSettings (accepted : ofSettings settings engine = .ok configuration) :
    configuration.grid.check = .ok () := by
  obtain ⟨grid, _, _, _, _, _, _, _, _, rfl⟩ := ofSettings_eq_ok.mp accepted
  exact grid

/-- A configuration that says what the given settings say. -/
structure Follows (configuration : Configuration) (settings : Settings) (engine : PatternEngine := .standard) : Prop where
  vocabulary : configuration.vocabulary.Follows settings.vocabulary
  entries : configuration.catalog.entries = settings.catalog.entries
  fallbackKey : configuration.catalog.fallbackKey = settings.catalog.fallback
  fallback : settings.catalog.entries.get? settings.catalog.fallback = some configuration.catalog.fallback
  naming : configuration.naming.settings = settings.naming
  namePattern : engine settings.naming.pattern false = some configuration.naming.pattern
  thresholds : configuration.thresholds = settings.thresholds
  failures : configuration.failures = settings.failures
  recognizedCredentials : configuration.recognizedCredentials = settings.recognizedCredentials
  output : configuration.output = settings.output

theorem follows_of_ofSettings (accepted : ofSettings settings engine = .ok configuration) :
    configuration.Follows settings engine := by
  obtain ⟨_, _, _, vocabulary, words, catalog, entries, naming, names, rfl⟩ := ofSettings_eq_ok.mp accepted
  obtain ⟨_, _, fallback, found, _, rfl⟩ := Catalog.ofSettings_eq_ok.mp entries
  obtain ⟨same, read⟩ := NamingRules.ofSettings_eq_ok.mp names
  exact {
    vocabulary := (Vocabulary.compiled_of_ofSettings words).follows
    entries := rfl
    fallbackKey := rfl
    fallback := found
    naming := same
    namePattern := read
    thresholds := rfl
    failures := rfl
    recognizedCredentials := rfl
    output := rfl }

end Configuration

end WorkflowSynthesis
