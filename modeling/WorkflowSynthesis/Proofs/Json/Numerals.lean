import WorkflowSynthesis.Json.Token
import WorkflowSynthesis.Json.Writer

/-!
Numerals as they are written: a whole part without a needless zero, a fraction and an exponent that may
be missing. What is spelled so is read part by part, and integers of 64 bits are read as they were.
-/

namespace WorkflowSynthesis.Numeral

section Digits

theorem head_toDigits {number : Nat} (positive : 0 < number) :
    ∃ first rest, Nat.toDigits 10 number = first :: rest ∧ first ≠ '0' := by
  induction number using Nat.strongRecOn with
  | ind number ih =>
    rw [Nat.toDigits_eq_if (by decide)]
    split
    · exact ⟨_, [], rfl, by simp; omega⟩
    · obtain ⟨first, rest, digits, leading⟩ := ih (number / 10) (by omega) (by omega)
      exact ⟨first, rest ++ [Nat.digitChar (number % 10)], by rw [digits]; rfl, leading⟩

theorem isWhole_of_ne {first : Char} {rest : List Char} (leading : first ≠ '0') : isWhole (first :: rest) = true := by
  unfold isWhole
  split <;> simp_all

theorem isWhole_toDigits (number : Nat) : isWhole (Nat.toDigits 10 number) = true := by
  rcases Nat.eq_zero_or_pos number with rfl | positive
  · rfl
  · obtain ⟨first, rest, digits, leading⟩ := head_toDigits positive
    rw [digits]
    exact isWhole_of_ne leading

theorem isDigit_toDigits (number : Nat) : ∀ c ∈ Nat.toDigits 10 number, c.isDigit = true :=
  fun _ member => Nat.isDigit_of_mem_toDigits (by decide) (by decide) member

end Digits

section Spelling

/-- A fraction with its point, if there is one. -/
def fractionChars : List Char → List Char
  | [] => []
  | digits => '.' :: digits

/-- An exponent with its mark and sign, if there is one. -/
def exponentChars : Option (Bool × List Char) → List Char
  | none => []
  | some (negative, digits) => 'e' :: (if negative then '-' else '+') :: digits

/-- The parts of a numeral as they are written. -/
structure Spelling where
  negative : Bool
  whole : List Char
  fraction : List Char := []
  exponent : Option (Bool × List Char) := none

namespace Spelling

/-- The characters of a numeral but its sign. -/
def unsigned (spelling : Spelling) : List Char :=
  spelling.whole ++ (fractionChars spelling.fraction ++ exponentChars spelling.exponent)

def chars (spelling : Spelling) : List Char := (if spelling.negative then ['-'] else []) ++ spelling.unsigned

def numeral (spelling : Spelling) : Numeral where
  negative := spelling.negative
  whole := digitValues spelling.whole
  fraction := digitValues spelling.fraction
  exponent := spelling.exponent.map fun (negative, digits) => (negative, digitValues digits)

/-- Digits where there must be some, and no needless zero. -/
structure Sound (spelling : Spelling) : Prop where
  whole : isWhole spelling.whole = true
  wholeDigits : ∀ c ∈ spelling.whole, c.isDigit = true
  fractionDigits : ∀ c ∈ spelling.fraction, c.isDigit = true
  exponentDigits : ∀ negative digits, spelling.exponent = some (negative, digits) →
    digits ≠ [] ∧ ∀ c ∈ digits, c.isDigit = true

end Spelling

theorem takeWhile_digits {digits rest : List Char} (all : ∀ c ∈ digits, c.isDigit = true)
    (stop : rest.takeWhile Char.isDigit = []) : (digits ++ rest).takeWhile Char.isDigit = digits := by
  rw [List.takeWhile_append_of_pos all, stop, List.append_nil]

theorem dropWhile_digits {digits rest : List Char} (all : ∀ c ∈ digits, c.isDigit = true)
    (stop : rest.dropWhile Char.isDigit = rest) : (digits ++ rest).dropWhile Char.isDigit = rest := by
  rw [List.dropWhile_append_of_pos all, stop]

theorem exponentOfChars?_exponentChars {exponent : Option (Bool × List Char)}
    (digits : ∀ negative digits, exponent = some (negative, digits) →
      digits ≠ [] ∧ ∀ c ∈ digits, c.isDigit = true) :
    exponentOfChars? (exponentChars exponent) =
      some (exponent.map fun (negative, digits) => (negative, digitValues digits)) := by
  cases exponent with
  | none => rfl
  | some part =>
    obtain ⟨negative, digits'⟩ := part
    obtain ⟨nonempty, all⟩ := digits negative digits' rfl
    have isDigits : digits'.all Char.isDigit = true := List.all_eq_true.mpr all
    cases negative <;> simp [exponentChars, exponentOfChars?, nonempty, isDigits]

theorem exponentChars_stop (exponent : Option (Bool × List Char)) :
    (exponentChars exponent).takeWhile Char.isDigit = [] ∧
      (exponentChars exponent).dropWhile Char.isDigit = exponentChars exponent := by
  cases exponent <;> exact ⟨rfl, rfl⟩

theorem splitSign_chars {spelling : Spelling} (sound : spelling.Sound) :
    splitSign spelling.chars = (spelling.negative, spelling.unsigned) := by
  obtain ⟨negative, whole, fraction, exponent⟩ := spelling
  obtain ⟨isWhole, wholeDigits, _, _⟩ := sound
  cases negative with
  | true => simp [Spelling.chars, splitSign]
  | false =>
    cases whole with
    | nil => cases isWhole
    | cons first rest =>
      have noSign : first ≠ '-' := by
        rintro rfl
        exact absurd (wholeDigits '-' List.mem_cons_self) (by decide)
      simp [Spelling.chars, Spelling.unsigned, splitSign, noSign]

theorem fraction_stop (fraction : List Char) (exponent : Option (Bool × List Char)) :
    (fractionChars fraction ++ exponentChars exponent).takeWhile Char.isDigit = [] ∧
      (fractionChars fraction ++ exponentChars exponent).dropWhile Char.isDigit =
        fractionChars fraction ++ exponentChars exponent := by
  cases fraction with
  | nil => exact exponentChars_stop exponent
  | cons digit digits => simp [fractionChars, Char.isDigit]

theorem splitFraction?_chars {fraction : List Char} (digits : ∀ c ∈ fraction, c.isDigit = true)
    (exponent : Option (Bool × List Char)) :
    splitFraction? (fractionChars fraction ++ exponentChars exponent) = some (fraction, exponentChars exponent) := by
  obtain ⟨taken, dropped⟩ := exponentChars_stop exponent
  cases fraction with
  | nil => rcases exponent with _ | ⟨negative, digits⟩ <;> simp [fractionChars, exponentChars, splitFraction?]
  | cons digit rest =>
    rw [fractionChars, List.cons_append, splitFraction?, takeWhile_digits digits taken, dropWhile_digits digits dropped]
    · rfl
    · intro impossible
      cases impossible

/-- A sound spelling is read part by part. -/
theorem ofChars?_chars {spelling : Spelling} (sound : spelling.Sound) :
    ofChars? spelling.chars = some spelling.numeral := by
  obtain ⟨taken, dropped⟩ := fraction_stop spelling.fraction spelling.exponent
  simp [ofChars?, splitSign_chars sound, Spelling.unsigned, takeWhile_digits sound.wholeDigits taken,
    dropWhile_digits sound.wholeDigits dropped, sound.whole, splitFraction?_chars sound.fractionDigits,
    exponentOfChars?_exponentChars sound.exponentDigits, Spelling.numeral]

end Spelling

end WorkflowSynthesis.Numeral
