import WorkflowSynthesis.Pattern.Property
import WorkflowSynthesis.Text.Case

/-!
What does not depend on the case of ASCII letters: the classes of characters, single characters in lower and in upper
case, and therefore the lower case and the words of whole texts.
-/

namespace WorkflowSynthesis.Text

def capitals : List Char := (List.range' 0x41 26).map Char.ofNat

/-- Whether a function of characters is the same for both cases of an ASCII letter. -/
def IgnoresCase {α : Type} (read : Char → α) : Prop := ∀ c, read c.toLower = read c

theorem toLower_of_not_mem {c : Char} (other : c ∉ capitals) : c.toLower = c := by
  refine dif_neg fun capital => ?_
  have first : 65 ≤ c.toNat := UInt32.le_iff_toNat_le.mp capital.1
  have last : c.toNat ≤ 90 := UInt32.le_iff_toNat_le.mp capital.2
  exact other (List.mem_map.mpr ⟨c.toNat, List.mem_range'_1.mpr ⟨first, by omega⟩, Char.ofNat_toNat c⟩)

theorem toList_toLower (text : String) : text.toLower.toList = text.toList.map Char.toLower := String.toList_map

/-- Only the capitals have to be compared with their small letters. -/
theorem ignoresCase_of_capitals {α : Type} [BEq α] [LawfulBEq α] {read : Char → α}
    (same : capitals.all fun c => read c.toLower == read c) : IgnoresCase read := by
  intro c
  by_cases capital : c ∈ capitals
  · exact beq_iff_eq.mp (List.all_eq_true.mp same c capital)
  · rw [toLower_of_not_mem capital]

section Classes

theorem ignoresCase_isCased : IgnoresCase isCased := ignoresCase_of_capitals (by decide +kernel)

theorem ignoresCase_isCaseIgnorable : IgnoresCase isCaseIgnorable := ignoresCase_of_capitals (by decide +kernel)

theorem ignoresCase_isBlank : IgnoresCase isBlank := ignoresCase_of_capitals (by decide +kernel)

theorem ignoresCase_isWordChar : IgnoresCase Property.isWordChar := ignoresCase_of_capitals (by decide +kernel)

theorem ignoresCase_lowerChar : IgnoresCase lowerChar := ignoresCase_of_capitals (by decide +kernel)

theorem ignoresCase_upperChar : IgnoresCase upperChar := ignoresCase_of_capitals (by decide +kernel)

/-- A character that is no letter is not changed by lower case, and nothing else becomes it. -/
theorem toLower_eq_iff {mark : Char} (stays : mark ∉ capitals ∧ mark ∉ capitals.map Char.toLower) {c : Char} :
    c.toLower = mark ↔ c = mark := by
  by_cases capital : c ∈ capitals
  · have small : c.toLower ∈ capitals.map Char.toLower := List.mem_map_of_mem capital
    exact ⟨fun same => absurd (same ▸ small) stays.2, fun same => absurd (same ▸ capital) stays.1⟩
  · rw [toLower_of_not_mem capital]

end Classes

section Lowercase

theorem any_head?_dropWhile_map {first second : Char → Bool} (skips : IgnoresCase first) (reads : IgnoresCase second)
    (chars : List Char) :
    ((chars.map Char.toLower).dropWhile first).head?.any second = (chars.dropWhile first).head?.any second := by
  induction chars with
  | nil => rfl
  | cons c rest ih =>
    rw [List.map_cons, List.dropWhile_cons, List.dropWhile_cons, skips c]
    split
    · exact ih
    · exact reads c

theorem continuesWord_eq (chars : List Char) :
    continuesWord chars = (chars.dropWhile isCaseIgnorable).head?.any isCased := by
  unfold continuesWord
  split <;> simp [*]

theorem continuesWord_map (chars : List Char) : continuesWord (chars.map Char.toLower) = continuesWord chars := by
  rw [continuesWord_eq, continuesWord_eq,
    any_head?_dropWhile_map ignoresCase_isCaseIgnorable ignoresCase_isCased]

theorem lowerAfter_map (before chars : List Char) :
    lowerAfter (before.map Char.toLower) (chars.map Char.toLower) = lowerAfter before chars := by
  induction chars generalizing before with
  | nil => rfl
  | cons c rest ih =>
    -- The capital sigma is the one letter whose lower case depends on the letters around it.
    have sigma : c.toLower = 'Σ' ↔ c = 'Σ' := toLower_eq_iff (by decide)
    have later := ih (c :: before)
    rw [List.map_cons] at later
    simp only [List.map_cons, lowerAfter, sigma, continuesWord_map, ignoresCase_lowerChar c, later]

/-- The lower case of a text, also where it depends on what surrounds a letter. -/
theorem lowercase_toLower (text : String) : lowercase text.toLower = lowercase text := by
  rw [lowercase, toList_toLower]
  exact congrArg String.ofList (lowerAfter_map [] text.toList)

end Lowercase

section Words

theorem stretches_map {separates : Char → Bool} (ignores : IgnoresCase separates) (chars : List Char) :
    stretches separates (chars.map Char.toLower) = (stretches separates chars).map (List.map Char.toLower) := by
  induction chars with
  | nil => rfl
  | cons c rest ih =>
    simp only [List.map_cons, stretches, ih, ignores c]
    split
    · rfl
    · cases rest with
      | nil => rfl
      | cons next others =>
        cases stretches separates (next :: others) with
        | nil => rfl
        | cons stretch later =>
          simp only [List.map_cons, ignores next]
          split <;> rfl

theorem words_toLower (text : String) : words text.toLower = (words text).map String.toLower := by
  rw [words, words, toList_toLower, stretches_map ignoresCase_isBlank, List.map_map, List.map_map]
  refine List.map_congr_left fun stretch _ => ?_
  rw [Function.comp_apply, Function.comp_apply, ← String.toList_inj, toList_toLower, String.toList_ofList,
    String.toList_ofList]

theorem capitalize_toLower (word : String) : capitalize word.toLower = capitalize word := by
  rw [capitalize, capitalize, toList_toLower]
  cases word.toList with
  | nil => rfl
  | cons first rest =>
    have later : (rest.map Char.toLower).flatMap lowerChar = rest.flatMap lowerChar := by
      rw [List.flatMap_map]
      exact congrArg (rest.flatMap ·) (funext ignoresCase_lowerChar)
    rw [List.map_cons, capitalizeChars, capitalizeChars, ignoresCase_upperChar first, later]

end Words

end WorkflowSynthesis.Text
