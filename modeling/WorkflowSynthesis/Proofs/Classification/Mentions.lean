import Mathlib.Data.List.Forall2
import Mathlib.Data.List.TakeWhile
import WorkflowSynthesis.Proofs.Classification.Reading

/-!
The mentions of actions. Every action verb makes one with the first service between it and the next action verb, and of
those with one verb and one key the first is kept.
-/

namespace WorkflowSynthesis.Vocabulary

variable {vocabulary : Vocabulary} {tokens rest segment : List String} {token verb : String} {place : Nat}
  {mention : Mention}

/-- An action verb at a place, and the words between it and the next action verb, or the end. -/
def VerbAt (vocabulary : Vocabulary) (tokens : List String) (place : Nat) (verb : String) (segment : List String) :
    Prop :=
  vocabulary.isKeyword .action verb = true ∧
    ∃ before after, tokens = before ++ verb :: (segment ++ after) ∧ before.length = place ∧
      (∀ token ∈ segment, vocabulary.isKeyword .action token = false) ∧
      ∀ token ∈ after.head?, vocabulary.isKeyword .action token = true

/-- The first word that names a service, and the key of that service; neither if no word does. -/
def NamesFirst (vocabulary : Vocabulary) (words : List String) : Option String → Option String → Prop
  | some service, some key =>
    ∃ silent later, words = silent ++ service :: later ∧ (∀ word ∈ silent, vocabulary.serviceKey? word = none) ∧
      vocabulary.serviceKey? service = some key
  | none, none => ∀ word ∈ words, vocabulary.serviceKey? word = none
  | _, _ => False

/-- What an action verb at a place mentions. -/
def MentionAt (vocabulary : Vocabulary) (tokens : List String) (place : Nat) (mention : Mention) : Prop :=
  ∃ segment, vocabulary.VerbAt tokens place mention.verb segment ∧
    vocabulary.NamesFirst segment mention.service mention.serviceKey

theorem verbAt_succ : vocabulary.VerbAt (token :: rest) (place + 1) verb segment ↔
    vocabulary.VerbAt rest place verb segment := by
  constructor
  · rintro ⟨isVerb, _ | ⟨head, before⟩, after, same, length, silent, next⟩
    · cases length
    · obtain ⟨-, rfl⟩ := List.cons.inj same
      exact ⟨isVerb, before, after, rfl, Nat.succ.inj length, silent, next⟩
  · rintro ⟨isVerb, before, after, rfl, rfl, silent, next⟩
    exact ⟨isVerb, token :: before, after, rfl, rfl, silent, next⟩

/-- The words after a verb at the beginning are known. -/
theorem verbAt_zero : vocabulary.VerbAt (token :: rest) 0 verb segment ↔
    verb = token ∧ vocabulary.isKeyword .action token = true ∧
      segment = rest.takeWhile fun word => !vocabulary.isKeyword .action word := by
  constructor
  · rintro ⟨isVerb, before, after, same, empty, silent, next⟩
    obtain rfl := List.length_eq_zero_iff.mp empty
    obtain ⟨rfl, rfl⟩ := List.cons.inj same
    refine ⟨rfl, isVerb, ?_⟩
    rw [List.takeWhile_append_of_pos fun word member => by simp [silent word member]]
    cases after with
    | nil => simp
    | cons word after => simp [next word rfl]
  · rintro ⟨rfl, isVerb, rfl⟩
    refine ⟨isVerb, [], rest.dropWhile fun word => !vocabulary.isKeyword .action word, ?_, rfl, ?_, ?_⟩
    · rw [List.takeWhile_append_dropWhile, List.nil_append]
    · intro word member
      simpa using List.mem_takeWhile_imp member
    · intro word first
      have stopped := List.head?_dropWhile_not (fun word => !vocabulary.isKeyword .action word) rest
      rw [Option.mem_def.mp first] at stopped
      simpa using stopped

theorem exists_verbAt (found : tokens[place]? = some verb) (isVerb : vocabulary.isKeyword .action verb) :
    ∃ segment, vocabulary.VerbAt tokens place verb segment := by
  induction tokens generalizing place with
  | nil => cases found
  | cons token rest ih =>
    cases place with
    | zero =>
      obtain rfl := Option.some.inj found
      exact ⟨_, verbAt_zero.mpr ⟨rfl, isVerb, rfl⟩⟩
    | succ place =>
      obtain ⟨segment, verbAt⟩ := ih found
      exact ⟨segment, verbAt_succ.mpr verbAt⟩

theorem firstService?_eq_none_iff {words : List String} :
    vocabulary.firstService? words = none ↔ vocabulary.NamesFirst words none none := by
  simp [firstService?, NamesFirst]

theorem firstService?_eq_some_iff {words : List String} {service key : String} :
    vocabulary.firstService? words = some (service, key) ↔ vocabulary.NamesFirst words (some service) (some key) := by
  simp only [firstService?, NamesFirst, List.findSome?_eq_some_iff, Option.map_eq_some_iff, Option.map_eq_none_iff]
  constructor
  · rintro ⟨silent, word, later, rfl, ⟨key, known, same⟩, unknown⟩
    cases same
    exact ⟨silent, later, rfl, unknown, known⟩
  · rintro ⟨silent, later, rfl, unknown, known⟩
    exact ⟨silent, service, later, rfl, ⟨key, known, rfl⟩, unknown⟩

/-- The search finds the first service. -/
theorem namesFirst_iff {words : List String} {service key : Option String} :
    vocabulary.NamesFirst words service key ↔
      service = (vocabulary.firstService? words).map (·.1) ∧ key = (vocabulary.firstService? words).map (·.2) := by
  match service, key with
  | none, none =>
    rw [← firstService?_eq_none_iff]
    cases vocabulary.firstService? words <;> simp
  | some service, some key =>
    rw [← firstService?_eq_some_iff]
    cases vocabulary.firstService? words <;> simp [Prod.ext_iff, eq_comm]
  | none, some _ => cases vocabulary.firstService? words <;> simp [NamesFirst]
  | some _, none => cases vocabulary.firstService? words <;> simp [NamesFirst]

theorem exists_namesFirst (words : List String) : ∃ service key, vocabulary.NamesFirst words service key :=
  ⟨_, _, namesFirst_iff.mpr ⟨rfl, rfl⟩⟩

theorem mentionAt_succ : vocabulary.MentionAt (token :: rest) (place + 1) mention ↔
    vocabulary.MentionAt rest place mention := by
  simp only [MentionAt, verbAt_succ]

theorem not_mentionAt_nil : ¬vocabulary.MentionAt [] place mention := by
  rintro ⟨segment, ⟨-, before, after, same, -⟩, -⟩
  simp at same

theorem not_mentionAt_zero (noVerb : vocabulary.isKeyword .action token = false) :
    ¬vocabulary.MentionAt (token :: rest) 0 mention := by
  rintro ⟨segment, verbAt, -⟩
  obtain ⟨-, isVerb, -⟩ := verbAt_zero.mp verbAt
  exact Bool.false_ne_true (noVerb.symm.trans isVerb)

/-- A verb at the beginning mentions what is made first. -/
theorem exists_mentionAt_zero (isVerb : vocabulary.isKeyword .action token = true) : ∃ made : Mention,
    vocabulary.allMentions (token :: rest) = made :: vocabulary.allMentions rest ∧
      ∀ mention, vocabulary.MentionAt (token :: rest) 0 mention ↔ mention = made := by
  refine ⟨_, by rw [allMentions, if_pos isVerb], fun mention => ⟨?_, ?_⟩⟩
  · rintro ⟨segment, verbAt, names⟩
    obtain ⟨same, -, rfl⟩ := verbAt_zero.mp verbAt
    obtain ⟨service, key⟩ := namesFirst_iff.mp names
    cases mention
    simp only [Mention.mk.injEq]
    exact ⟨same, service, key⟩
  · rintro rfl
    exact ⟨_, verbAt_zero.mpr ⟨rfl, isVerb, rfl⟩, namesFirst_iff.mpr ⟨rfl, rfl⟩⟩

/-- The mentions that are made, each with its place. -/
structure Numbering (vocabulary : Vocabulary) (tokens : List String) (numbered : List (Nat × Mention)) : Prop where
  made : numbered.map (·.2) = vocabulary.allMentions tokens
  ordered : numbered.Pairwise (·.1 < ·.1)
  placed : ∀ place mention, (place, mention) ∈ numbered ↔ vocabulary.MentionAt tokens place mention

/-- The mentions of a list of words that has one more in front. -/
def postpone (numbered : List (Nat × Mention)) : List (Nat × Mention) :=
  numbered.map fun (place, mention) => (place + 1, mention)

section Postpone

variable {numbered : List (Nat × Mention)}

@[simp]
theorem zero_not_mem_postpone : (0, mention) ∉ postpone numbered := by simp [postpone]

@[simp]
theorem succ_mem_postpone : (place + 1, mention) ∈ postpone numbered ↔ (place, mention) ∈ numbered := by simp [postpone]

theorem map_snd_postpone : (postpone numbered).map (·.2) = numbered.map (·.2) := by
  rw [postpone, List.map_map]
  rfl

theorem pairwise_postpone (ordered : numbered.Pairwise (·.1 < ·.1)) : (postpone numbered).Pairwise (·.1 < ·.1) :=
  List.pairwise_map.mpr (ordered.imp fun earlier => Nat.succ_lt_succ earlier)

/-- A word that is no action verb mentions nothing. -/
theorem Numbering.cons_word (numbering : vocabulary.Numbering rest numbered)
    (noVerb : vocabulary.isKeyword .action token = false) :
    vocabulary.Numbering (token :: rest) (postpone numbered) where
  made := by rw [map_snd_postpone, numbering.made, allMentions, if_neg (Bool.eq_false_iff.mp noVerb)]
  ordered := pairwise_postpone numbering.ordered
  placed := by
    rintro (_ | place) mention
    · simp only [zero_not_mem_postpone, not_mentionAt_zero noVerb]
    · rw [succ_mem_postpone, numbering.placed, mentionAt_succ]

/-- An action verb adds one mention, at the beginning. -/
theorem Numbering.cons_verb (numbering : vocabulary.Numbering rest numbered)
    (isVerb : vocabulary.isKeyword .action token = true) :
    ∃ first, vocabulary.Numbering (token :: rest) ((0, first) :: postpone numbered) := by
  obtain ⟨first, same, only⟩ := exists_mentionAt_zero isVerb
  refine ⟨first, ?made, .cons ?_ (pairwise_postpone numbering.ordered), ?placed⟩
  case made => rw [List.map_cons, map_snd_postpone, numbering.made, same]
  case placed =>
    rintro (_ | place) mention
    · simp [only]
    · simp [numbering.placed, mentionAt_succ]
  rintro ⟨_ | place, mention⟩ later
  · exact absurd later zero_not_mem_postpone
  · exact Nat.succ_pos place

end Postpone

/-- Every mention has its place, and the places follow one another. -/
theorem exists_numbering (vocabulary : Vocabulary) (tokens : List String) :
    ∃ numbered, vocabulary.Numbering tokens numbered := by
  induction tokens with
  | nil => exact ⟨[], rfl, .nil, fun _ _ => by simp [not_mentionAt_nil]⟩
  | cons token rest ih =>
    obtain ⟨numbered, numbering⟩ := ih
    cases isVerb : vocabulary.isKeyword .action token with
    | false => exact ⟨_, numbering.cons_word isVerb⟩
    | true =>
      obtain ⟨first, numbering⟩ := numbering.cons_verb isVerb
      exact ⟨_, numbering⟩

/-- What an action verb at a place mentions, if none before it mentions the same with the same verb. -/
def FirstAt (vocabulary : Vocabulary) (tokens : List String) (place : Nat) (mention : Mention) : Prop :=
  vocabulary.MentionAt tokens place mention ∧ ∀ earlier < place, ∀ other, vocabulary.MentionAt tokens earlier other →
    (other.verb, other.serviceKey) ≠ (mention.verb, mention.serviceKey)

theorem Numbering.firstAt {numbered : List (Nat × Mention)} (numbering : vocabulary.Numbering tokens numbered)
    (first : (place, mention) ∈ firstsBy (Mention.key ∘ Prod.snd) numbered) :
    vocabulary.FirstAt tokens place mention := by
  refine ⟨(numbering.placed place mention).mp (firstsBy.sublist.subset first), ?_⟩
  intro earlier before other mentioned same
  have listed := (numbering.placed earlier other).mpr mentioned
  rcases firstsBy.eq_or_after numbering.ordered first listed same with same | after
  · exact absurd (congrArg Prod.fst same) before.ne
  · exact absurd after (Nat.lt_asymm before)

/-- What a list of mentions says about the verbs among the words. -/
structure Mentioned (vocabulary : Vocabulary) (tokens : List String) (mentions : List Mention) : Prop where
  /-- No two share the verb and the key of the service. -/
  distinct : mentions.Pairwise fun mention other => (mention.verb, mention.serviceKey) ≠ (other.verb, other.serviceKey)
  /-- Every place of an action verb has a mention with its verb and the key of the first service after it. -/
  complete : ∀ place verb, tokens[place]? = some verb → vocabulary.isKeyword .action verb = true →
    ∃ segment, vocabulary.VerbAt tokens place verb segment ∧ ∃ mention ∈ mentions, mention.verb = verb ∧
      ∃ service, vocabulary.NamesFirst segment service mention.serviceKey
  /-- In the order of their places, every one is the first with its verb and its key. -/
  ordered : ∃ places : List Nat, places.Pairwise (· < ·) ∧ List.Forall₂ (vocabulary.FirstAt tokens) places mentions

/-- Every action verb among the words is mentioned, once for each service, and nothing else is. -/
theorem mentioned_mentions (vocabulary : Vocabulary) (tokens : List String) :
    vocabulary.Mentioned tokens (vocabulary.mentions tokens) := by
  obtain ⟨numbered, numbering⟩ := vocabulary.exists_numbering tokens
  refine ⟨firstsBy.pairwise_ne, fun place verb found isVerb => ?complete, ?ordered⟩
  case complete =>
    obtain ⟨segment, verbAt⟩ := exists_verbAt found isVerb
    obtain ⟨service, key, names⟩ := exists_namesFirst segment
    have listed := (numbering.placed place ⟨verb, service, key⟩).mpr ⟨segment, verbAt, names⟩
    have made : ⟨verb, service, key⟩ ∈ vocabulary.allMentions tokens := numbering.made ▸ List.mem_map_of_mem listed
    obtain ⟨mention, kept, same⟩ := firstsBy.exists_mem Mention.key made
    obtain ⟨sameVerb, sameKey⟩ := Prod.mk.inj same
    exact ⟨segment, verbAt, mention, kept, sameVerb, service, sameKey ▸ names⟩
  case ordered =>
    have unnumbered : (firstsBy (Mention.key ∘ Prod.snd) numbered).map (·.2) = vocabulary.mentions tokens := by
      rw [mentions_eq, ← numbering.made, firstsBy.map]
    refine ⟨(firstsBy (Mention.key ∘ Prod.snd) numbered).map (·.1),
      List.pairwise_map.mpr (numbering.ordered.sublist firstsBy.sublist), ?_⟩
    rw [← unnumbered, List.forall₂_map_left_iff, List.forall₂_map_right_iff, List.forall₂_same]
    exact fun _ first => numbering.firstAt first

end WorkflowSynthesis.Vocabulary
