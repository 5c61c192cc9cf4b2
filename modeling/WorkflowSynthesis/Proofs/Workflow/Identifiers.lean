import Mathlib.Logic.Function.Basic
import WorkflowSynthesis.Text.Blank
import WorkflowSynthesis.Workflow.Identifiers

/-! Sources whose identifiers can be told apart. Numbered identifiers are such a source. -/

namespace WorkflowSynthesis.Identifiers

/-- Identifiers of which none repeats and none is blank. -/
structure Proper (identifiers : Identifiers) : Prop where
  distinct : Function.Injective identifiers
  visible : ∀ index, Text.isBlankText (identifiers index) = false

/-- Zeros in front do not change the number that digits stand for. -/
theorem value_fourPlaces (number : Nat) : Nat.ofDigitChars 10 (fourPlaces number).toList 0 = number := by
  have digits : (toString number).toList = Nat.toDigits 10 number := by
    rw [Nat.toString_eq_repr, Nat.toList_repr]
  simp only [fourPlaces, String.toList_ofList, Nat.ofDigitChars_append, Nat.ofDigitChars_replicate_zero, digits]
  exact Nat.ofDigitChars_ten_toDigits

theorem isDigit_fourPlaces (number : Nat) : ∀ c ∈ (fourPlaces number).toList, c.isDigit = true := by
  intro c member
  simp only [fourPlaces, String.toList_ofList, List.mem_append, List.mem_replicate, Nat.toString_eq_repr,
    Nat.toList_repr] at member
  rcases member with ⟨_, rfl⟩ | digit
  · rfl
  · exact Nat.isDigit_of_mem_toDigits (by decide) (by decide) digit

theorem proper_sequential (stem : String) : (sequential stem).Proper where
  distinct first second same := by
    have places : fourPlaces (first + 1) = fourPlaces (second + 1) := by
      simpa [sequential, ← String.toList_inj] using same
    have values := congrArg (fun text : String => Nat.ofDigitChars 10 text.toList 0) places
    simp only [value_fourPlaces] at values
    omega
  visible index := by
    have hyphen : '-' ∈ (sequential stem index).toList := by simp [sequential]
    have notBlank : Text.isBlank '-' = false := by decide
    rw [Text.isBlankText, List.all_eq_false]
    exact ⟨'-', hyphen, by simp [notBlank]⟩

/-- Numbers grow wider after four places, and a stem may look like a number itself. -/
example : sequential "7-" 9998 = "7--9999" ∧ sequential "7-" 9999 = "7--10000" := by decide

end WorkflowSynthesis.Identifiers
