import WorkflowSynthesis.Classification.Reading
import WorkflowSynthesis.Proofs.Classification.Firsts

/-! What the reading of a description can find: keywords, and keys of services. -/

namespace WorkflowSynthesis

/-- What tells the mentions of a description apart. -/
def Mention.key (mention : Mention) : String × Option String := (mention.verb, mention.serviceKey)

namespace Vocabulary

variable {vocabulary : Vocabulary}

/-- What a classification has if the words of a description were compared with the vocabulary. -/
structure Reads (vocabulary : Vocabulary) (classification : Classification) : Prop where
  verbs : ∀ mention ∈ classification.actions, vocabulary.isKeyword .action mention.verb
  services : ∀ mention ∈ classification.actions, ∀ key, mention.serviceKey = some key →
    ∃ word, vocabulary.serviceKey? word = some key
  primary : classification.primaryAction ∈ vocabulary.defaultAction :: vocabulary.actionPriority
  conditions : ∀ keyword ∈ classification.conditions, vocabulary.isKeyword .condition keyword
  dataOps : ∀ keyword ∈ classification.dataOps, vocabulary.isKeyword .dataOp keyword
  schedule : ∀ hint ∈ classification.schedule, (∀ hour ∈ hint.hour, hour < 24) ∧ ∀ minute ∈ hint.minute, minute < 60

theorem mentions_eq (tokens : List String) :
    vocabulary.mentions tokens = firstsBy Mention.key (vocabulary.allMentions tokens) := rfl

theorem mem_allMentions_of_mem {tokens : List String} {mention : Mention}
    (member : mention ∈ vocabulary.mentions tokens) : mention ∈ vocabulary.allMentions tokens := by
  rw [mentions_eq] at member
  exact firstsBy.sublist.subset member

theorem verb_of_mem_allMentions {tokens : List String} {mention : Mention}
    (member : mention ∈ vocabulary.allMentions tokens) : vocabulary.isKeyword .action mention.verb := by
  induction tokens with
  | nil => simp [allMentions] at member
  | cons token rest ih =>
    unfold allMentions at member
    split at member
    · next isVerb =>
      rcases List.mem_cons.mp member with rfl | later
      · exact isVerb
      · exact ih later
    · exact ih member

theorem service_of_mem_allMentions {tokens : List String} {mention : Mention}
    (member : mention ∈ vocabulary.allMentions tokens) {key : String} (called : mention.serviceKey = some key) :
    ∃ word, vocabulary.serviceKey? word = some key := by
  induction tokens with
  | nil => simp [allMentions] at member
  | cons token rest ih =>
    unfold allMentions at member
    split at member
    · rcases List.mem_cons.mp member with rfl | later
      · obtain ⟨service, found, same⟩ := Option.map_eq_some_iff.mp called
        obtain ⟨word, _, isService⟩ := List.exists_of_findSome?_eq_some found
        obtain ⟨_, known, rfl⟩ := Option.map_eq_some_iff.mp isService
        exact ⟨word, same ▸ known⟩
      · exact ih later
    · exact ih member

theorem primaryAction_mem (tokens : List String) :
    vocabulary.primaryAction tokens ∈ vocabulary.defaultAction :: vocabulary.actionPriority := by
  unfold primaryAction
  cases found : vocabulary.actionPriority.find? tokens.contains with
  | none => exact List.mem_cons_self
  | some verb => exact List.mem_cons_of_mem _ (List.mem_of_find?_eq_some found)

theorem isKeyword_of_mem_found {kind : KeywordKind} {tokens : List String} {keyword : String}
    (member : keyword ∈ vocabulary.found kind tokens) : vocabulary.isKeyword kind keyword :=
  (List.mem_filter.mp (List.mem_eraseDups.mp member)).2

theorem clockTime_bounds {pattern : Matcher} {description : String} {time : Nat × Nat}
    (found : ClockTime.find? pattern description = some time) : time.1 < 24 ∧ time.2 < 60 := by
  obtain ⟨_, _, read⟩ := List.exists_of_findSome?_eq_some found
  simp only [ClockTime.ofMatch?, Option.bind_eq_bind, Option.bind_eq_some_iff] at read
  obtain ⟨hour, _, read⟩ := read
  split at read
  · cases read
  · obtain ⟨_, _, read⟩ := Option.bind_eq_some_iff.mp read
    obtain ⟨bounds, same⟩ := Option.ite_none_right_eq_some.mp read
    cases same
    exact bounds

/-- Every description is read so. -/
theorem reads_classify (description : String) : vocabulary.Reads (vocabulary.classify description) := by
  have clock : ∀ tokens, (∀ hour ∈ (vocabulary.scheduleHint description tokens).hour, hour < 24) ∧
      ∀ minute ∈ (vocabulary.scheduleHint description tokens).minute, minute < 60 := by
    intro tokens
    unfold scheduleHint
    cases found : ClockTime.find? vocabulary.time description with
    | none => simp
    | some time => simpa using clockTime_bounds found
  unfold classify
  generalize Text.tokens description = tokens
  exact {
    verbs := fun _ member => verb_of_mem_allMentions (mem_allMentions_of_mem member)
    services := fun _ member _ => service_of_mem_allMentions (mem_allMentions_of_mem member)
    primary := primaryAction_mem tokens
    conditions := fun _ member => isKeyword_of_mem_found member
    dataOps := fun _ member => isKeyword_of_mem_found member
    schedule := by
      intro hint planned
      dsimp only at planned
      split at planned
      · cases planned
        exact clock tokens
      · cases planned }

end Vocabulary

end WorkflowSynthesis
