import WorkflowSynthesis.Generator
import WorkflowSynthesis.Proofs.Classification.LetterCase
import WorkflowSynthesis.Proofs.Configuration.Standard
import WorkflowSynthesis.Proofs.Pattern.Search
import WorkflowSynthesis.Proofs.Plan.Steps
import WorkflowSynthesis.Proofs.Workflow.Beginning

/-!
Descriptions that tell of a schedule, under the standard settings. Whatever else they say and the caller asks for,
they are taken for schedules, and the workflow starts with the node of its schedule.
-/

namespace WorkflowSynthesis

/-- The words that tell of a schedule. -/
def scheduleWords : List String := ["every", "daily", "hourly", "weekly", "monthly"]

/-- Whether a text contains a word somewhere, in any case of ASCII letters, the only ones that `String.toLower`
changes. -/
def Text.Contains (text word : String) : Prop := word.toList <:+: text.toLower.toList

/-- The pattern of schedules comes first, and spells every word that tells of one. -/
theorem spells_scheduleWords : ∃ others, ({} : VocabularySettings).triggerPatterns =
    ⟨.schedule, "every|daily|hourly|weekly|monthly"⟩ :: others ∧
      ∀ word ∈ scheduleWords,
        let pattern := Pattern.ofExpression (Pattern.spelled "every|daily|hourly|weekly|monthly").expression
        pattern.spells 16 word.toList pattern.start = true :=
  ⟨_, rfl, by decide +kernel⟩

namespace Vocabulary

/-- If the first rule applies no other one is asked. -/
theorem detectTrigger_of_first {vocabulary : Vocabulary} {rule : TriggerRule} {others : List TriggerRule}
    (first : vocabulary.triggerRules = rule :: others) {description : String}
    (found : rule.pattern.matchesText description = true) : vocabulary.detectTrigger description = rule.trigger := by
  have hit : vocabulary.triggerRules.find? (·.pattern.matchesText description) = some rule := by
    rw [first]
    exact List.find?_cons_of_pos found
  rw [detectTrigger, hit]

theorem detectTrigger_schedule {vocabulary : Vocabulary} (accepted : ofSettings {} = .ok vocabulary)
    {description word : String} (listed : word ∈ scheduleWords) (contained : Text.Contains description word) :
    vocabulary.detectTrigger description = .schedule := by
  obtain ⟨others, patterns, spelled⟩ := spells_scheduleWords
  have rules := (compiled_of_ofSettings accepted).rules
  have read := parse?_triggerPatterns ⟨.schedule, "every|daily|hourly|weekly|monthly"⟩ (patterns ▸ List.mem_cons_self)
  rw [patterns, List.forall₂_cons_left_iff] at rules
  obtain ⟨rule, further, ⟨isSchedule, ruleRead⟩, _, first⟩ := rules
  rw [PatternEngine.standard, read, Option.map_some, Option.some.injEq] at ruleRead
  -- The rules do not tell capitals from small letters, so the description may be read in the latter.
  rw [← detectTrigger_toLower (ignoresCase_of_ofSettings accepted), detectTrigger_of_first first, isSchedule]
  rw [← ruleRead]
  exact Pattern.matchesText_of_spells (spelled word listed) contained

/-- A schedule comes with a hint. -/
theorem isSome_schedule {vocabulary : Vocabulary} {description : String}
    (scheduled : (vocabulary.classify description).trigger = .schedule) :
    (vocabulary.classify description).schedule.isSome := by
  have hinted : (vocabulary.classify description).schedule =
    if (vocabulary.classify description).trigger = .schedule then
      some (vocabulary.scheduleHint description (Text.tokens description)) else none := rfl
  rw [hinted, if_pos scheduled, Option.isSome_some]

end Vocabulary

/-- The node of a schedule in the standard catalog. -/
theorem Catalog.exists_schedule_standard :
    ∃ entry, ({} : CatalogSettings).entries.get? Trigger.schedule.key = some entry ∧
      entry.role = .trigger ∧ entry.nodeType = "n8n-nodes-base.cron" := by
  have held : (({} : CatalogSettings).entries.get? Trigger.schedule.key).map (fun entry =>
      (entry.role, entry.nodeType)) = some (.trigger, "n8n-nodes-base.cron") := by
    decide
  obtain ⟨entry, found, same⟩ := Option.map_eq_some_iff.mp held
  exact ⟨entry, found, Prod.mk.inj same⟩

namespace Generator

theorem classification_generate (generator : Generator) (description : String) (context : GenerationContext) :
    (generator.generate description context).classification = generator.classify description := by
  unfold generate
  dsimp only
  split <;> rfl

/-- If the first step of a plan is a trigger, the workflow starts with its node, with or without notes. -/
theorem startsWith_generate (generator : Generator) (description : String) (context : GenerationContext)
    {trigger : Step} {others : List Step} (begins : (generator.plan description context).steps = trigger :: others)
    (isTrigger : trigger.role = .trigger) :
    (generator.generate description context).workflow.StartsWith trigger.nodeType := by
  have drawn : (generator.draw description context).1.StartsWith trigger.nodeType := by
    rw [draw, begins]
    exact Workflow.startsWith_build _ _ _ isTrigger others
  unfold generate
  dsimp only
  split
  · exact drawn.attach _ _ _
  · exact drawn

/-- A description that contains a word of schedules is taken for a schedule, whatever other triggers it tells of, and
whatever the caller asks for its workflow starts with the node of the schedule. -/
theorem generate_scheduled : ∃ configuration, Configuration.standard = .ok configuration ∧
    ∀ (identifiers : Identifiers) (documents : Bool) (description : String) (context : GenerationContext),
      (∃ word ∈ scheduleWords, Text.Contains description word) →
        let generator : Generator := { configuration, identifiers, documents }
        let generation := generator.generate description context
        generation.classification.trigger = .schedule ∧ generation.classification.schedule.isSome ∧
          generation.workflow.StartsWith "n8n-nodes-base.cron" := by
  obtain ⟨configuration, accepted⟩ := Configuration.exists_standard
  refine ⟨configuration, accepted, fun identifiers documents description context ⟨word, listed, contained⟩ => ?_⟩
  intro generator generation
  have classified : generation.classification = configuration.vocabulary.classify description :=
    classification_generate generator description context
  have words := Configuration.vocabulary_of_ofSettings accepted
  have scheduled : (configuration.vocabulary.classify description).trigger = .schedule :=
    Vocabulary.detectTrigger_schedule words listed contained
  obtain ⟨entry, found, isTrigger, typed⟩ := Catalog.exists_schedule_standard
  have known : configuration.catalog.get? (configuration.vocabulary.classify description).trigger.key =
      some entry := by
    rw [scheduled, (Configuration.follows_of_ofSettings accepted).get?_standard, found]
  obtain ⟨step, others, begins, _, stepTyped, role, _⟩ := Plan.exists_first_of_entry configuration
    (configuration.vocabulary.classify description) context.overrides context.services known
  have starts := generator.startsWith_generate description context begins (role.trans isTrigger)
  refine ⟨classified ▸ scheduled, ?_, (stepTyped.trans typed) ▸ starts⟩
  rw [classified]
  exact Vocabulary.isSome_schedule scheduled

/-- The word may be a part of another one and come last, other triggers may be told of and asked for, and identifiers
may be repeated. -/
theorem generate_scheduled_everyone :
    let description := "When the webhook gets a message, click start and email EVERYone"
    Text.Contains description "every" ∧ ∃ configuration, Configuration.standard = .ok configuration ∧
      let generator : Generator := { configuration, identifiers := fun _ => "same", documents := true }
      let generation := generator.generate description { services := ["webhook", "manual", "email"] }
      generation.classification.trigger = .schedule ∧ generation.classification.schedule.isSome ∧
        generation.workflow.StartsWith "n8n-nodes-base.cron" := by
  have contained : Text.Contains "When the webhook gets a message, click start and email EVERYone" "every" := by
    rw [Text.Contains, Text.toList_toLower]
    exact ⟨"when the webhook gets a message, click start and email ".toList, "one".toList, by decide +kernel⟩
  obtain ⟨configuration, accepted, scheduled⟩ := generate_scheduled
  exact ⟨contained, configuration, accepted, scheduled _ _ _ _ ⟨"every", List.mem_cons_self, contained⟩⟩

end Generator

end WorkflowSynthesis
