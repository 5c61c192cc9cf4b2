import WorkflowSynthesis.Proofs.Configuration.Acceptance
import WorkflowSynthesis.Proofs.Pattern.Names
import WorkflowSynthesis.Proofs.Pattern.Standard

/-!
The standard configuration: its settings are accepted, and its words, which are in lower case as they
stand, are used for keys whose entries have the role that is meant.
-/

namespace WorkflowSynthesis

namespace Catalog

theorem checkEntry_standard : ∀ entry ∈ ({} : CatalogSettings).entries.entries, checkEntry entry = .ok () := by
  have sound : ({} : CatalogSettings).entries.entries.all (fun entry => (fault? entry.2).isNone) = true := by
    decide
  intro entry member
  have faultless := Option.isNone_iff_eq_none.mp (List.all_eq_true.mp sound entry member)
  simp [checkEntry, faultless]

theorem role_standard {key : String} {role : Role}
    (held : ((({} : CatalogSettings).entries.get? key).map (·.role)) = some role) :
    ∃ entry, ({} : CatalogSettings).entries.get? key = some entry ∧ entry.role = role :=
  Option.map_eq_some_iff.mp held

theorem checkTrigger_standard : ∀ trigger ∈ Trigger.all, checkTrigger ({} : CatalogSettings).entries trigger = .ok () := by
  have roles : ∀ trigger ∈ Trigger.all,
      ((({} : CatalogSettings).entries.get? trigger.key).map (·.role)) = some .trigger := by decide
  intro trigger member
  obtain ⟨entry, found, isTrigger⟩ := role_standard (roles trigger member)
  simp [checkTrigger, found, isTrigger]

theorem role_fallback_standard :
    ((({} : CatalogSettings).entries.get? ({} : CatalogSettings).fallback).map (·.role)) = some .action := by decide

theorem isSome_fallback_standard : (({} : CatalogSettings).entries.get? ({} : CatalogSettings).fallback).isSome := by
  obtain ⟨fallback, found, _⟩ := role_standard role_fallback_standard
  exact Option.isSome_of_eq_some found

/-- The standard catalog with the entry that stands in for unknown keys. -/
def standard : Catalog where
  entries := ({} : CatalogSettings).entries
  fallbackKey := ({} : CatalogSettings).fallback
  fallback := (({} : CatalogSettings).entries.get? ({} : CatalogSettings).fallback).get isSome_fallback_standard

theorem get?_fallback_standard : standard.get? standard.fallbackKey = some standard.fallback :=
  (Option.some_get isSome_fallback_standard).symm

theorem exists_standard : ∃ catalog, ofSettings {} = .ok catalog := by
  obtain ⟨fallback, found, isAction⟩ := role_standard role_fallback_standard
  exact ⟨_, ofSettings_eq_ok.mpr ⟨checkEntry_standard, checkTrigger_standard, fallback, found, isAction, rfl⟩⟩

/-- The standard catalog takes any further entry that is sound by itself. -/
theorem exists_insert {key : String} {entry : CatalogEntry} (sound : fault? entry = none)
    (unlisted : ({} : CatalogSettings).entries.get? key = none) :
    ∃ catalog, ofSettings { entries := ({} : CatalogSettings).entries.insert key entry } = .ok catalog := by
  obtain ⟨fallback, found, isAction⟩ := role_standard role_fallback_standard
  have kept : ∀ {other : String} {held : CatalogEntry}, ({} : CatalogSettings).entries.get? other = some held →
      (({} : CatalogSettings).entries.insert key entry).get? other = some held := by
    intro other held known
    have different : other ≠ key := by
      rintro rfl
      rw [unlisted] at known
      cases known
    rw [Dictionary.get?_insert, if_neg different, known]
  refine ⟨_, ofSettings_eq_ok.mpr ⟨fun listed member => ?_, fun trigger member => ?_, fallback, kept found, isAction, rfl⟩⟩
  · rcases Dictionary.mem_entries_insert.mp member with rfl | ⟨old, _⟩
    · simp [checkEntry, sound]
    · exact checkEntry_standard listed old
  · obtain ⟨held, known, isTrigger⟩ := entry_of_checkTrigger (checkTrigger_standard trigger member)
    simp [checkTrigger, kept known, isTrigger]

end Catalog

namespace Configuration

/-- The standard settings are accepted with any catalog and any way of handling failures that are accepted. -/
theorem exists_ofSettings {catalog : CatalogSettings} {failures : FailurePolicy}
    (entries : ∃ checked, Catalog.ofSettings catalog = .ok checked) (known : failures.check = .ok ()) :
    ∃ configuration, ofSettings { catalog, failures } = .ok configuration := by
  obtain ⟨triggers, url, email, time⟩ := readable_standard
  obtain ⟨vocabulary, words⟩ := Vocabulary.exists_ofSettings triggers url email time
  obtain ⟨checked, entries⟩ := entries
  have naming : NamingRules.ofSettings {} = .ok { settings := {}, pattern := Pattern.standardName.matcher } :=
    NamingRules.ofSettings_eq_ok.mpr ⟨rfl, congrArg (Option.map Pattern.matcher) Pattern.parse?_standardName⟩
  exact ⟨_, ofSettings_eq_ok.mpr ⟨rfl, rfl, known, vocabulary, words, checked, entries, _, naming, rfl⟩⟩

/-- The standard settings are accepted. -/
theorem exists_standard : ∃ configuration, standard = .ok configuration :=
  exists_ofSettings Catalog.exists_standard (by decide)

end Configuration

/-- Whether the entry under a key has the given role. A key without an entry can be used for any role. -/
def Catalog.Serves (catalog : Catalog) (role : Role) (key : String) : Prop :=
  ∀ entry, catalog.get? key = some entry → entry.role = role

/-- The keys for which the words of the vocabulary are used have entries of the role that is meant, and no
entry is for handlers or notes. -/
structure Configuration.Consistent (configuration : Configuration) : Prop where
  entries : ∀ key entry, configuration.catalog.get? key = some entry → entry.role ≠ .errorHandler ∧ entry.role ≠ .note
  service : ∀ word key, configuration.vocabulary.serviceKey? word = some key → configuration.catalog.Serves .action key
  verb : ∀ verb, configuration.vocabulary.isKeyword .action verb → ¬configuration.vocabulary.isKeyword .dataOp verb →
    configuration.catalog.Serves .action ((configuration.vocabulary.verbDefault? verb).getD verb)
  defaultAction : configuration.catalog.Serves .action configuration.vocabulary.defaultAction
  condition : ∀ keyword, configuration.vocabulary.isKeyword .condition keyword →
    configuration.catalog.Serves .condition (configuration.vocabulary.conditionKey keyword)
  dataOp : ∀ keyword, configuration.vocabulary.isKeyword .dataOp keyword → configuration.catalog.Serves .dataOp keyword

namespace Configuration

/-- The role of the entry under a key in the standard catalog. -/
def standardRole? (key : String) : Option Role := (({} : CatalogSettings).entries.get? key).map (·.role)

/-- The keys to which the words of the standard vocabulary lead have entries of the role that is meant, or none. -/
theorem role_words_standard :
    (∀ entry ∈ ({} : VocabularySettings).services.entries, (standardRole? entry.2).all (· = .action) = true) ∧
    (∀ verb ∈ ({} : VocabularySettings).actionKeywords, verb ∉ ({} : VocabularySettings).dataOpKeywords →
      (standardRole? ((({} : VocabularySettings).verbDefaults.get? verb).getD verb)).all (· = .action) = true) ∧
    (standardRole? ({} : VocabularySettings).defaultAction).all (· = .action) = true ∧
    (∀ keyword ∈ ({} : VocabularySettings).conditionKeywords,
      (standardRole? ((({} : VocabularySettings).conditionKeys.get? keyword).getD "condition")).all
        (· = .condition) = true) ∧
    ∀ keyword ∈ ({} : VocabularySettings).dataOpKeywords, (standardRole? keyword).all (· = .dataOp) = true := by
  decide

end Configuration

namespace Vocabulary

/-- The words of settings that a vocabulary takes in lower case. -/
def loweredWords (settings : VocabularySettings) : List String :=
  settings.actionKeywords ++ (settings.conditionKeywords ++ (settings.dataOpKeywords ++ (settings.actionPriority ++
    (settings.defaultAction :: (settings.services.keys ++ (settings.verbDefaults.keys ++ settings.conditionKeys.keys))))))

theorem small_loweredWords_standard :
    ∀ word ∈ loweredWords {}, word.toList.all (fun c => decide (c.toNat ∈ Text.smallLetters)) = true := by
  decide

/-- The words of the vocabulary are those of the settings as they stand. -/
structure Verbatim (vocabulary : Vocabulary) (settings : VocabularySettings) : Prop where
  actionKeywords : vocabulary.actionKeywords = settings.actionKeywords
  conditionKeywords : vocabulary.conditionKeywords = settings.conditionKeywords
  dataOpKeywords : vocabulary.dataOpKeywords = settings.dataOpKeywords
  actionPriority : vocabulary.actionPriority = settings.actionPriority
  defaultAction : vocabulary.defaultAction = settings.defaultAction
  services : vocabulary.services = settings.services
  verbDefaults : vocabulary.verbDefaults = settings.verbDefaults
  conditionKeys : vocabulary.conditionKeys = settings.conditionKeys

theorem map_lowercase {words : List String} (lower : ∀ word ∈ words, Text.lowercase word = word) :
    words.map Text.lowercase = words := by
  rw [List.map_congr_left lower, List.map_id']

theorem lowercaseKeys_eq {dictionary : Dictionary String} (lower : ∀ key ∈ dictionary.keys, Text.lowercase key = key) :
    lowercaseKeys dictionary = dictionary := by
  have same : dictionary.entries.map (fun entry => (Text.lowercase entry.1, entry.2)) = dictionary.entries := by
    refine (List.map_congr_left fun entry member => ?_).trans (List.map_id _)
    rw [lower entry.1 (List.mem_map_of_mem member), id]
  rw [lowercaseKeys, same, Dictionary.ofList_entries]

theorem Follows.verbatim {vocabulary : Vocabulary} {settings : VocabularySettings} (follows : vocabulary.Follows settings)
    (lower : ∀ word ∈ loweredWords settings, Text.lowercase word = word) : vocabulary.Verbatim settings := by
  simp only [loweredWords, List.forall_mem_append, List.forall_mem_cons] at lower
  obtain ⟨actions, conditions, dataOps, priority, default, services, verbs, keys⟩ := lower
  exact {
    actionKeywords := follows.actionKeywords.trans (map_lowercase actions)
    conditionKeywords := follows.conditionKeywords.trans (map_lowercase conditions)
    dataOpKeywords := follows.dataOpKeywords.trans (map_lowercase dataOps)
    actionPriority := follows.actionPriority.trans (map_lowercase priority)
    defaultAction := follows.defaultAction.trans default
    services := follows.services.trans (lowercaseKeys_eq services)
    verbDefaults := follows.verbDefaults.trans (lowercaseKeys_eq verbs)
    conditionKeys := follows.conditionKeys.trans (lowercaseKeys_eq keys) }

theorem Follows.standard {vocabulary : Vocabulary} (follows : vocabulary.Follows {}) : vocabulary.Verbatim {} := by
  exact follows.verbatim fun word member => Text.lowercase_small (by simpa using small_loweredWords_standard word member)

end Vocabulary

namespace Configuration

variable {configuration : Configuration}

theorem Follows.get?_standard (follows : configuration.Follows {}) (key : String) :
    configuration.catalog.get? key = ({} : CatalogSettings).entries.get? key := by
  rw [Catalog.get?, follows.entries]

theorem Follows.catalog_standard (follows : configuration.Follows {}) : configuration.catalog = .standard := by
  obtain ⟨entries, fallbackKey, fallback⟩ : configuration.catalog.entries = Catalog.standard.entries ∧
      configuration.catalog.fallbackKey = Catalog.standard.fallbackKey ∧
        configuration.catalog.fallback = Catalog.standard.fallback := by
    refine ⟨follows.entries, follows.fallbackKey, ?_⟩
    exact (Option.get_of_eq_some Catalog.isSome_fallback_standard follows.fallback).symm
  generalize configuration.catalog = catalog at entries fallbackKey fallback
  cases catalog
  subst entries fallbackKey fallback
  rfl

theorem Follows.serves_of_role (follows : configuration.Follows {}) {role : Role} {key : String}
    (fits : (standardRole? key).all (· = role) = true) : configuration.catalog.Serves role key := by
  intro entry found
  have held : standardRole? key = some entry.role := by
    rw [standardRole?, ← follows.get?_standard, found]
    rfl
  simpa [held] using fits

theorem consistent_of_follows (follows : configuration.Follows {}) : configuration.Consistent where
  entries key entry found := by
    rw [follows.get?_standard, Dictionary.get?_eq_some_iff] at found
    have fits : ∀ entry ∈ ({} : CatalogSettings).entries.entries,
        entry.2.role ≠ .errorHandler ∧ entry.2.role ≠ .note := by decide
    exact fits _ found
  service word key named := by
    rw [Vocabulary.serviceKey?, follows.vocabulary.standard.services, Dictionary.get?_eq_some_iff] at named
    exact follows.serves_of_role (role_words_standard.1 _ named)
  verb verb isAction isNoDataOp := by
    simp only [Vocabulary.isKeyword, Vocabulary.keywords, follows.vocabulary.standard.actionKeywords,
      follows.vocabulary.standard.dataOpKeywords, List.contains_iff_mem] at isAction isNoDataOp
    rw [Vocabulary.verbDefault?, follows.vocabulary.standard.verbDefaults]
    exact follows.serves_of_role (role_words_standard.2.1 verb isAction isNoDataOp)
  defaultAction := by
    rw [follows.vocabulary.standard.defaultAction]
    exact follows.serves_of_role role_words_standard.2.2.1
  condition keyword isCondition := by
    simp only [Vocabulary.isKeyword, Vocabulary.keywords, follows.vocabulary.standard.conditionKeywords,
      List.contains_iff_mem] at isCondition
    rw [Vocabulary.conditionKey, follows.vocabulary.standard.conditionKeys]
    exact follows.serves_of_role (role_words_standard.2.2.2.1 keyword isCondition)
  dataOp keyword isDataOp := by
    simp only [Vocabulary.isKeyword, Vocabulary.keywords, follows.vocabulary.standard.dataOpKeywords,
      List.contains_iff_mem] at isDataOp
    exact follows.serves_of_role (role_words_standard.2.2.2.2 keyword isDataOp)

end Configuration

end WorkflowSynthesis
