import Mathlib.Data.List.Find
import WorkflowSynthesis.Classification.Reading
import WorkflowSynthesis.Configuration.Naming
import WorkflowSynthesis.Proofs.Configuration.Acceptance
import WorkflowSynthesis.Proofs.Pattern.LetterCase

/-!
Two descriptions that differ only in the case of ASCII letters. The standard vocabulary finds the same in both, but for
the addresses, which are told as they were written, and workflows get the same name from both.
-/

namespace WorkflowSynthesis

namespace ClockTime

theorem ignoresCase_isDigit : Text.IgnoresCase Char.isDigit := Text.ignoresCase_of_capitals (by decide +kernel)

theorem toLower_of_isDigit {c : Char} (digit : c.isDigit) : c.toLower = c := by
  have letters : Text.capitals.all (!·.isDigit) := by decide
  refine Text.toLower_of_not_mem fun capital => ?_
  have letter := List.all_eq_true.mp letters c capital
  simp [digit] at letter

/-- The digits of a number, without its sign. -/
def unsigned : List Char → List Char
  | '+' :: digits => digits
  | digits => digits

theorem unsigned_map (chars : List Char) : unsigned (chars.map Char.toLower) = (unsigned chars).map Char.toLower := by
  cases chars with
  | nil => rfl
  | cons c rest =>
    by_cases plus : c = '+'
    · subst plus
      rfl
    · have sign : c.toLower ≠ '+' := mt (Text.toLower_eq_iff (by decide)).mp plus
      simp [unsigned, plus, sign]

theorem natural?_eq (text : String) : natural? text =
    if (unsigned text.toList).isEmpty || !(unsigned text.toList).all Char.isDigit then none
    else
      let value := (unsigned text.toList).foldl (fun value c => value * 10 + (c.toNat - '0'.toNat)) 0
      if value < 0x100000000 then some value else none := rfl

theorem natural?_toLower (text : String) : natural? text.toLower = natural? text := by
  have digits (chars : List Char) (all : chars.all Char.isDigit) : chars.map Char.toLower = chars := by
    have each := List.map_congr_left fun c member => toLower_of_isDigit (List.all_eq_true.mp all c member)
    rw [each, List.map_id']
  have all (chars : List Char) : (chars.map Char.toLower).all Char.isDigit = chars.all Char.isDigit := by
    rw [List.all_map]
    exact congrArg chars.all (funext ignoresCase_isDigit)
  rw [natural?_eq, natural?_eq, Text.toList_toLower, unsigned_map]
  by_cases numeral : (unsigned text.toList).all Char.isDigit
  · rw [digits _ numeral]
  · simp [all, numeral]

theorem ofMatch?_map (found : Trail) : ofMatch? (found.map Char.toLower).toMatch = ofMatch? found.toMatch := by
  have number (group : Option String) : (group.map (String.map Char.toLower)).bind natural? = group.bind natural? := by
    cases group with
    | none => rfl
    | some text => exact natural?_toLower text
  have half (group : Option String) :
      (group.map (String.map Char.toLower)).map Text.lowercase = group.map Text.lowercase := by
    cases group with
    | none => rfl
    | some text => exact congrArg some (Text.lowercase_toLower text)
  simp only [ofMatch?, Trail.toMatch, Trail.group?_map, number, half]
  rfl

/-- A pattern that ignores case finds the same clock time. -/
theorem find?_toLower {pattern : Pattern} (admits : pattern.Admits Char.toLower) (description : String) :
    find? pattern.matcher description.toLower = find? pattern.matcher description := by
  have found : pattern.allMatches description.toLower = (pattern.allMatches description).map (Trail.map Char.toLower) :=
    Pattern.allMatches_map admits description
  simp only [find?, Pattern.matcher, found, List.findSome?_map]
  exact congrArg (List.findSome? · _) (funext ofMatch?_map)

end ClockTime

theorem Text.tokens_toLower (text : String) : tokens text.toLower = tokens text := by
  rw [tokens, tokens, lowercase_toLower]

namespace Vocabulary

/-- Whether triggers and times are found the same with both cases of ASCII letters. -/
structure IgnoresCase (vocabulary : Vocabulary) : Prop where
  rules : ∀ rule ∈ vocabulary.triggerRules, ∀ text,
    rule.pattern.matchesText text.toLower = rule.pattern.matchesText text
  time : ∀ text, ClockTime.find? vocabulary.time text.toLower = ClockTime.find? vocabulary.time text

variable {vocabulary : Vocabulary}

theorem ignoresCase_of_ofSettings (accepted : ofSettings {} = .ok vocabulary) : vocabulary.IgnoresCase := by
  obtain ⟨rules, time⟩ := patterns_of_ofSettings accepted
  refine ⟨fun rule member => ?_, ?_⟩
  · obtain ⟨spelled, listed, made⟩ := rules rule member
    obtain ⟨pattern, read, same⟩ := Option.map_eq_some_iff.mp made
    rw [← same]
    exact Pattern.matchesText_map (admits_triggerPatterns spelled listed pattern read)
  · obtain ⟨pattern, read, same⟩ := Option.map_eq_some_iff.mp time
    rw [← same]
    exact ClockTime.find?_toLower (admits_timePattern read)

theorem detectTrigger_toLower (ignores : vocabulary.IgnoresCase) (description : String) :
    vocabulary.detectTrigger description.toLower = vocabulary.detectTrigger description := by
  have same : vocabulary.triggerRules.find? (·.pattern.matchesText description.toLower) =
      vocabulary.triggerRules.find? (·.pattern.matchesText description) :=
    List.find?_congr fun rule member => ignores.rules rule member description
  rw [detectTrigger, detectTrigger, same]

theorem classify_toLower (ignores : vocabulary.IgnoresCase) (description : String) :
    { vocabulary.classify description.toLower with entities := {} } =
      { vocabulary.classify description with entities := {} } := by
  simp only [classify, scheduleHint, Text.tokens_toLower, detectTrigger_toLower ignores, ignores.time description]

end Vocabulary

theorem NamingRules.workflowName_toLower (rules : NamingRules) (description : String) :
    rules.workflowName description.toLower = rules.workflowName description := by
  rw [workflowName, workflowName, Text.words_toLower, ← List.map_take]
  cases (Text.words description).take rules.settings.workflowNameWords.toNat with
  | nil => rfl
  | cons word words =>
    have capitalized :
        ((word :: words).map String.toLower).map Text.capitalize = (word :: words).map Text.capitalize := by
      rw [List.map_map]
      exact List.map_congr_left fun word _ => Text.capitalize_toLower word
    simp only [List.map_cons] at capitalized ⊢
    rw [capitalized]

/-- The standard vocabulary does not depend on the case of ASCII letters, the only ones that `String.toLower` changes:
but for the addresses, the same is found in two descriptions that differ in nothing else, and they give the same name
to a workflow. -/
theorem Vocabulary.classify_of_toLower_eq : ∃ vocabulary, Vocabulary.ofSettings {} = .ok vocabulary ∧
    ∀ left right : String, left.toLower = right.toLower →
      { vocabulary.classify left with entities := {} } = { vocabulary.classify right with entities := {} } ∧
        ∀ rules : NamingRules, rules.workflowName left = rules.workflowName right := by
  obtain ⟨triggers, url, email, time⟩ := readable_standard
  obtain ⟨vocabulary, accepted⟩ := Vocabulary.exists_ofSettings triggers url email time
  have ignores := Vocabulary.ignoresCase_of_ofSettings accepted
  refine ⟨vocabulary, accepted, fun left right same => ⟨?_, fun rules => ?_⟩⟩
  · rw [← Vocabulary.classify_toLower ignores left, same, Vocabulary.classify_toLower ignores right]
  · rw [← rules.workflowName_toLower left, same, rules.workflowName_toLower right]

theorem Vocabulary.classify_of_toLower_eq_shouted :
    "Email ΟΔΟΣ every day at 9am".toLower = "EMAIL ΟΔΟΣ Every Day AT 9Am".toLower ∧
      ∃ vocabulary, Vocabulary.ofSettings {} = .ok vocabulary ∧
        { vocabulary.classify "Email ΟΔΟΣ every day at 9am" with entities := {} } =
          { vocabulary.classify "EMAIL ΟΔΟΣ Every Day AT 9Am" with entities := {} } ∧
        ∀ rules : NamingRules, rules.workflowName "Email ΟΔΟΣ every day at 9am" =
          rules.workflowName "EMAIL ΟΔΟΣ Every Day AT 9Am" := by
  have same : "Email ΟΔΟΣ every day at 9am".toLower = "EMAIL ΟΔΟΣ Every Day AT 9Am".toLower := by
    rw [← String.toList_inj, Text.toList_toLower, Text.toList_toLower]
    decide +kernel
  obtain ⟨vocabulary, accepted, alike⟩ := Vocabulary.classify_of_toLower_eq
  exact ⟨same, vocabulary, accepted, alike _ _ same⟩

end WorkflowSynthesis
