import WorkflowSynthesis.Proofs.Configuration.Standard
import WorkflowSynthesis.Proofs.Plan.Diagnostics

/-!
What is asked of settings. Settings are accepted if they have all of it, otherwise the error tells of something that
they lack; and what is asked is enough for the look-ups that are made later without a check.
-/

namespace WorkflowSynthesis

/-- Whether a pattern matches without regard to case. -/
def PatternUse.ignoresCase : PatternUse → Bool
  | .naming => false
  | _ => true

namespace Settings

/-- Whether a pattern is given for a use. A trigger may have any number of them. -/
def Spells (settings : Settings) (pattern : String) : PatternUse → Prop
  | .trigger event => ⟨event, pattern⟩ ∈ settings.vocabulary.triggerPatterns
  | .url => pattern = settings.vocabulary.urlPattern
  | .email => pattern = settings.vocabulary.emailPattern
  | .time => pattern = settings.vocabulary.timePattern
  | .naming => pattern = settings.naming.pattern

/-- Whether there must be an entry under a key. -/
def Needs (settings : Settings) (key : String) : EntryNeed → Prop
  | .trigger => ∃ trigger : Trigger, key = trigger.key
  | .fallback => key = settings.catalog.fallback

/-- Whether an entry under a key has a fault. -/
def Shows (settings : Settings) (key : String) (entry : CatalogEntry) : EntryFault → Prop
  | .blankNodeType => Text.isBlankText entry.nodeType = true
  | .blankDisplayName => Text.isBlankText entry.displayName = true
  | .noOutput => entry.outputs = 0
  | .notTrigger found => settings.Needs key .trigger ∧ found = entry.role ∧ entry.role ≠ .trigger
  | .notAction found => settings.Needs key .fallback ∧ found = entry.role ∧ entry.role ≠ .action

/-- All that is asked of settings. -/
structure Acceptable (settings : Settings) (engine : PatternEngine) : Prop where
  horizontalSpacing : 0 < settings.grid.horizontalSpacing
  verticalSpacing : 0 < settings.grid.verticalSpacing
  nodeRange : settings.thresholds.minimumNodes ≤ settings.thresholds.maximumNodes
  failurePattern : ∃ pattern, settings.failures.patterns.get? settings.failures.pattern = some pattern
  patterns : ∀ pattern use, settings.Spells pattern use → (engine pattern use.ignoresCase).isSome
  entries : ∀ key entry, settings.catalog.entries.get? key = some entry →
    Text.isBlankText entry.nodeType = false ∧ Text.isBlankText entry.displayName = false ∧ 0 < entry.outputs
  triggers : ∀ trigger : Trigger, ∃ entry,
    settings.catalog.entries.get? trigger.key = some entry ∧ entry.role = .trigger
  fallback : ∃ entry, settings.catalog.entries.get? settings.catalog.fallback = some entry ∧ entry.role = .action

end Settings

/-- Whether an error tells of something that is wrong with the settings. -/
def ConfigurationError.Tells (settings : Settings) (engine : PatternEngine) : ConfigurationError → Prop
  | .unreadable _ _ => False
  | .malformed => False
  | .invalidPattern use pattern => settings.Spells pattern use ∧ engine pattern use.ignoresCase = none
  | .missingEntry key need => settings.Needs key need ∧ settings.catalog.entries.get? key = none
  | .invalidEntry key fault => ∃ entry,
      settings.catalog.entries.get? key = some entry ∧ settings.Shows key entry fault
  | .unknownFailurePattern key => key = settings.failures.pattern ∧ settings.failures.patterns.get? key = none
  | .invalidSpacing setting value => value ≤ 0 ∧
      (setting, value) ∈ [("horizontalSpacing", settings.grid.horizontalSpacing),
        ("verticalSpacing", settings.grid.verticalSpacing)]
  | .invertedNodeRange minimum maximum => maximum < minimum ∧
      minimum = settings.thresholds.minimumNodes ∧ maximum = settings.thresholds.maximumNodes

variable {settings : Settings} {engine : PatternEngine} {error : ConfigurationError}

/-- What an error tells of is asked of settings. -/
theorem Settings.not_acceptable_of_tells (tells : error.Tells settings engine) :
    ¬settings.Acceptable engine := by
  intro acceptable
  cases error with
  | unreadable => exact tells
  | malformed => exact tells
  | invalidPattern use pattern =>
    obtain ⟨spelled, unread⟩ := tells
    have read := acceptable.patterns pattern use spelled
    rw [unread] at read
    cases read
  | missingEntry key need =>
    obtain ⟨needed, missing⟩ := tells
    cases need with
    | trigger =>
      obtain ⟨trigger, rfl⟩ := needed
      obtain ⟨entry, found, _⟩ := acceptable.triggers trigger
      rw [missing] at found
      cases found
    | fallback =>
      obtain ⟨entry, found, _⟩ := acceptable.fallback
      rw [← needed, missing] at found
      cases found
  | invalidEntry key fault =>
    obtain ⟨entry, held, shows⟩ := tells
    obtain ⟨typed, named, served⟩ := acceptable.entries key entry held
    cases fault with
    | blankNodeType => exact absurd (shows.symm.trans typed) Bool.noConfusion
    | blankDisplayName => exact absurd (shows.symm.trans named) Bool.noConfusion
    | noOutput => exact UInt32.ne_of_lt served shows.symm
    | notTrigger role =>
      obtain ⟨⟨trigger, rfl⟩, _, other⟩ := shows
      obtain ⟨same, found, isTrigger⟩ := acceptable.triggers trigger
      obtain rfl := Option.some.inj (held.symm.trans found)
      exact other isTrigger
    | notAction role =>
      obtain ⟨isFallback, _, other⟩ := shows
      obtain ⟨same, found, isAction⟩ := acceptable.fallback
      obtain rfl := Option.some.inj (held.symm.trans (isFallback ▸ found))
      exact other isAction
  | unknownFailurePattern key =>
    obtain ⟨rfl, unknown⟩ := tells
    obtain ⟨pattern, found⟩ := acceptable.failurePattern
    rw [unknown] at found
    cases found
  | invalidSpacing setting value =>
    obtain ⟨narrow, listed⟩ := tells
    rcases List.mem_pair.mp listed with isHorizontal | isVertical
    · obtain ⟨_, rfl⟩ := Prod.mk.inj isHorizontal
      exact Int64.not_le.mpr acceptable.horizontalSpacing narrow
    · obtain ⟨_, rfl⟩ := Prod.mk.inj isVertical
      exact Int64.not_le.mpr acceptable.verticalSpacing narrow
  | invertedNodeRange minimum maximum =>
    obtain ⟨inverted, rfl, rfl⟩ := tells
    exact UInt64.not_le.mpr inverted acceptable.nodeRange

section Errors

/-! Every check fails with an error that tells. -/

theorem Grid.tells_of_check (failed : settings.grid.check = .error error) : error.Tells settings engine := by
  unfold Grid.check at failed
  split at failed
  · next narrow =>
    cases failed
    exact ⟨narrow, List.mem_cons_self⟩
  · split at failed
    · next flat =>
      cases failed
      exact ⟨flat, List.mem_pair.mpr (.inr rfl)⟩
    · cases failed

theorem Thresholds.tells_of_check (failed : settings.thresholds.check = .error error) : error.Tells settings engine := by
  unfold Thresholds.check at failed
  split at failed
  · next inverted =>
    cases failed
    exact ⟨inverted, rfl, rfl⟩
  · cases failed

theorem FailurePolicy.tells_of_check (failed : settings.failures.check = .error error) : error.Tells settings engine := by
  unfold FailurePolicy.check at failed
  split at failed
  · cases failed
  · next unknown =>
    cases failed
    rw [Dictionary.contains_eq_isSome, Option.not_isSome_iff_eq_none] at unknown
    exact ⟨rfl, unknown⟩

theorem tells_of_compilePattern (use : PatternUse) {pattern : String} (spelled : settings.Spells pattern use)
    (loose : use.ignoresCase = true) (failed : compilePattern engine use pattern = .error error) :
    error.Tells settings engine := by
  unfold compilePattern at failed
  split at failed
  · cases failed
  · next unread =>
    cases failed
    exact ⟨spelled, loose ▸ unread⟩

theorem Vocabulary.tells_of_ofSettings (failed : ofSettings settings.vocabulary engine = .error error) :
    error.Tells settings engine := by
  unfold ofSettings at failed
  rcases Except.bind_eq_error.mp failed with rules | ⟨_, _, failed⟩
  · obtain ⟨before, rule, after, listed, _, unread⟩ := Except.mapM_eq_error.mp rules
    have member : rule ∈ settings.vocabulary.triggerPatterns := by simp [listed]
    rcases Except.bind_eq_error.mp unread with unread | ⟨_, _, made⟩
    · exact tells_of_compilePattern (.trigger rule.trigger) member rfl unread
    · cases made
  rcases Except.bind_eq_error.mp failed with url | ⟨_, _, failed⟩
  · exact tells_of_compilePattern .url rfl rfl url
  rcases Except.bind_eq_error.mp failed with email | ⟨_, _, failed⟩
  · exact tells_of_compilePattern .email rfl rfl email
  rcases Except.bind_eq_error.mp failed with time | ⟨_, _, made⟩
  · exact tells_of_compilePattern .time rfl rfl time
  · cases made

namespace Catalog

theorem shows_of_fault? {key : String} {entry : CatalogEntry} {fault : EntryFault}
    (found : fault? entry = some fault) : settings.Shows key entry fault := by
  unfold fault? at found
  split at found
  · next blank =>
    cases found
    exact blank
  · split at found
    · next blank =>
      cases found
      exact blank
    · split at found
      · next unserved =>
        cases found
        exact unserved
      · cases found

theorem fault?_eq_none {entry : CatalogEntry} : fault? entry = none ↔
    Text.isBlankText entry.nodeType = false ∧ Text.isBlankText entry.displayName = false ∧ 0 < entry.outputs := by
  unfold fault?
  rw [UInt32.pos_iff_ne_zero]
  cases Text.isBlankText entry.nodeType <;> cases Text.isBlankText entry.displayName <;> simp

theorem tells_of_checkEntry {entry : String × CatalogEntry} (listed : entry ∈ settings.catalog.entries.entries)
    (failed : checkEntry entry = .error error) : error.Tells settings engine := by
  unfold checkEntry at failed
  split at failed
  · next fault found =>
    cases failed
    exact ⟨entry.2, Dictionary.get?_eq_some_iff.mpr listed, shows_of_fault? found⟩
  · cases failed

theorem tells_of_checkTrigger {trigger : Trigger}
    (failed : checkTrigger settings.catalog.entries trigger = .error error) : error.Tells settings engine := by
  unfold checkTrigger at failed
  split at failed
  · next missing =>
    cases failed
    exact ⟨⟨trigger, rfl⟩, missing⟩
  · next entry held =>
    split at failed
    · cases failed
    · next other =>
      cases failed
      exact ⟨entry, held, ⟨trigger, rfl⟩, rfl, other⟩

theorem tells_of_ofSettings (failed : ofSettings settings.catalog = .error error) : error.Tells settings engine := by
  unfold ofSettings at failed
  rcases Except.bind_eq_error.mp failed with entries | ⟨_, _, failed⟩
  · obtain ⟨entry, listed, failed⟩ := Except.exists_of_forM_eq_error entries
    exact tells_of_checkEntry listed failed
  rcases Except.bind_eq_error.mp failed with triggers | ⟨_, _, failed⟩
  · obtain ⟨trigger, _, failed⟩ := Except.exists_of_forM_eq_error triggers
    exact tells_of_checkTrigger failed
  split at failed
  · next missing =>
    cases failed
    exact ⟨rfl, missing⟩
  · next entry held =>
    split at failed
    · cases failed
    · next other =>
      cases failed
      exact ⟨entry, held, rfl, rfl, other⟩

end Catalog

theorem NamingRules.tells_of_ofSettings (failed : ofSettings settings.naming engine = .error error) :
    error.Tells settings engine := by
  unfold ofSettings at failed
  split at failed
  · cases failed
  · next unread =>
    cases failed
    exact ⟨rfl, unread⟩

theorem Configuration.tells_of_ofSettings (failed : ofSettings settings engine = .error error) :
    error.Tells settings engine := by
  unfold ofSettings at failed
  rcases Except.bind_eq_error.mp failed with grid | ⟨_, _, failed⟩
  · exact Grid.tells_of_check grid
  rcases Except.bind_eq_error.mp failed with thresholds | ⟨_, _, failed⟩
  · exact Thresholds.tells_of_check thresholds
  rcases Except.bind_eq_error.mp failed with failures | ⟨_, _, failed⟩
  · exact FailurePolicy.tells_of_check failures
  rcases Except.bind_eq_error.mp failed with vocabulary | ⟨_, _, failed⟩
  · exact Vocabulary.tells_of_ofSettings vocabulary
  rcases Except.bind_eq_error.mp failed with catalog | ⟨_, _, failed⟩
  · exact Catalog.tells_of_ofSettings catalog
  rcases Except.bind_eq_error.mp failed with naming | ⟨_, _, made⟩
  · exact NamingRules.tells_of_ofSettings naming
  · cases made

end Errors

theorem VocabularySettings.readable_of_compiled {settings : VocabularySettings} {vocabulary : Vocabulary}
    (compiled : vocabulary.Compiled settings engine) : settings.Readable engine where
  triggers spelled listed := by
    obtain ⟨rule, _, _, read⟩ := Except.exists_of_mem_forall₂ compiled.rules.flip listed
    exact Option.isSome_of_eq_some read
  url := Option.isSome_of_eq_some compiled.url
  email := Option.isSome_of_eq_some compiled.email
  time := Option.isSome_of_eq_some compiled.time

theorem Settings.isSome_of_spells (readable : settings.vocabulary.Readable engine)
    (named : (engine settings.naming.pattern false).isSome) {pattern : String} {use : PatternUse}
    (spelled : settings.Spells pattern use) : (engine pattern use.ignoresCase).isSome := by
  cases use with
  | trigger event => exact readable.triggers ⟨event, pattern⟩ spelled
  | url =>
    obtain rfl := spelled
    exact readable.url
  | email =>
    obtain rfl := spelled
    exact readable.email
  | time =>
    obtain rfl := spelled
    exact readable.time
  | naming =>
    obtain rfl := spelled
    exact named

namespace Configuration

variable {configuration : Configuration}

theorem acceptable_of_ofSettings (accepted : ofSettings settings engine = .ok configuration) :
    settings.Acceptable engine := by
  obtain ⟨grid, thresholds, failures, vocabulary, words, catalog, compiled, naming, names, _⟩ :=
    ofSettings_eq_ok.mp accepted
  obtain ⟨sound, triggers, fallback, found, isAction, _⟩ := Catalog.ofSettings_eq_ok.mp compiled
  have readable := VocabularySettings.readable_of_compiled (Vocabulary.compiled_of_ofSettings words)
  have named := Option.isSome_of_eq_some (NamingRules.ofSettings_eq_ok.mp names).2
  exact {
    horizontalSpacing := (Grid.check_eq_ok.mp grid).1
    verticalSpacing := (Grid.check_eq_ok.mp grid).2
    nodeRange := Thresholds.check_eq_ok.mp thresholds
    failurePattern := Option.isSome_iff_exists.mp (FailurePolicy.check_eq_ok.mp failures)
    patterns := fun _ _ spelled => Settings.isSome_of_spells readable named spelled
    entries := fun key entry held => Catalog.fault?_eq_none.mp
      (Catalog.fault?_of_checkEntry (sound (key, entry) (Dictionary.get?_eq_some_iff.mp held)))
    triggers := fun trigger => Catalog.entry_of_checkTrigger (triggers trigger trigger.mem_all)
    fallback := ⟨fallback, found, isAction⟩ }

/-- Settings are accepted if they have all that is asked of them: no check is left out, and none is made in vain. -/
theorem exists_ofSettings_iff :
    (∃ configuration, ofSettings settings engine = .ok configuration) ↔ settings.Acceptable engine := by
  constructor
  · rintro ⟨configuration, accepted⟩
    exact acceptable_of_ofSettings accepted
  · intro acceptable
    -- An error would tell of something that acceptable settings have.
    cases result : ofSettings settings engine with
    | ok configuration => exact ⟨configuration, rfl⟩
    | error error => exact absurd acceptable (Settings.not_acceptable_of_tells (tells_of_ofSettings result))

/-- What is looked up later without a check. -/
structure Covers (configuration : Configuration) : Prop where
  /-- The entry that stands in for unknown keys is in the catalog. -/
  fallback : configuration.catalog.get? configuration.catalog.fallbackKey = some configuration.catalog.fallback
  /-- There is a pattern by which failures are handled. -/
  failurePattern : configuration.failures.enabled = true →
    ∃ pattern, configuration.failures.failurePattern? = some pattern
  /-- Every plan begins with a trigger, made from the entry of its kind. -/
  trigger : ∀ classification overrides services, ∃ entry step others,
    configuration.catalog.get? classification.trigger.key = some entry ∧
      (Plan.ofClassification configuration classification overrides services).steps = step :: others ∧
        step.key = classification.trigger.key ∧ step.nodeType = entry.nodeType ∧ step.role = .trigger ∧
          step.fallback = false
  /-- No plan takes the fallback for a trigger, whoever asks for it. -/
  resolved : ∀ classification overrides services, ∀ trigger : Trigger,
    trigger.key ∉ (Plan.ofClassification configuration classification overrides services).unresolvedKeys

theorem covers_of_checked (checked : configuration.Checked) : configuration.Covers where
  fallback := checked.catalog.fallback.1
  failurePattern := fun _ => Option.isSome_iff_exists.mp checked.failurePattern
  trigger := by
    intro classification overrides services
    obtain ⟨entry, found, isTrigger⟩ := checked.catalog.triggers classification.trigger
    obtain ⟨step, others, begins, key, typed, role, called⟩ :=
      Plan.exists_first_of_entry configuration classification overrides services found
    exact ⟨entry, step, others, found, begins, key, typed, role.trans isTrigger, called⟩
  resolved := by
    intro classification overrides services trigger unresolved
    obtain ⟨step, listed, key⟩ := List.mem_map.mp unresolved
    obtain ⟨planned, fallback⟩ := List.mem_filter.mp listed
    obtain ⟨entry, found, _⟩ := checked.catalog.triggers trigger
    have missing := ((Plan.fallback_iff configuration classification overrides services planned).mp fallback).2
    rw [key, found] at missing
    cases missing

/-- Settings are accepted if they have all that is asked of them, otherwise the error tells of something that they
lack; and all that is looked up later without a check is there. Which patterns are valid is up to the engine. -/
theorem acceptance_ofSettings (settings : Settings) (engine : PatternEngine) :
    ((∃ configuration, ofSettings settings engine = .ok configuration) ↔ settings.Acceptable engine) ∧
      (∀ error, ofSettings settings engine = .error error → error.Tells settings engine) ∧
        ∀ configuration, ofSettings settings engine = .ok configuration → configuration.Covers :=
  ⟨exists_ofSettings_iff, fun _ => tells_of_ofSettings,
    fun _ accepted => covers_of_checked (checked_of_ofSettings accepted)⟩

/-- The standard settings, on a grid without height. -/
def flat : Settings := { grid := { verticalSpacing := 0 } }

/-- The standard settings are accepted. Without height they are not, and the error tells of the height. -/
theorem acceptance_ofSettings_flat :
    (∃ configuration, standard = .ok configuration ∧ configuration.Covers) ∧
      ¬flat.Acceptable .standard ∧ ofSettings flat = .error (.invalidSpacing "verticalSpacing" 0) ∧
        (ConfigurationError.invalidSpacing "verticalSpacing" 0).Tells flat .standard := by
  have refused : ofSettings flat = .error (.invalidSpacing "verticalSpacing" 0) := rfl
  obtain ⟨accepted, tells, _⟩ := acceptance_ofSettings flat .standard
  obtain ⟨_, _, covers⟩ := acceptance_ofSettings {} .standard
  obtain ⟨configuration, taken⟩ := exists_standard
  refine ⟨⟨configuration, taken, covers configuration taken⟩, fun acceptable => ?_, refused, tells _ refused⟩
  obtain ⟨other, taken⟩ := accepted.mpr acceptable
  rw [refused] at taken
  cases taken

end Configuration

end WorkflowSynthesis
