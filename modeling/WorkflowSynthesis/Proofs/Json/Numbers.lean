import WorkflowSynthesis.Proofs.Decimal.Shortest
import WorkflowSynthesis.Proofs.Json.Numerals

/-!
How numbers are written. Every number is spelled as a numeral should be, so it is read back as some
number if at all, and an integer of 64 bits as itself.
-/

namespace WorkflowSynthesis

namespace Numeral

namespace Spelling

theorem isWordChar_of_isDigit {c : Char} (digit : c.isDigit = true) : Token.isWordChar c = true := by
  simp [Token.isWordChar, Char.isAlphanum, digit]

theorem isWordChar_fractionChars {fraction : List Char} (digits : ∀ c ∈ fraction, c.isDigit = true) :
    ∀ c ∈ fractionChars fraction, Token.isWordChar c = true := by
  cases fraction with
  | nil => simp [fractionChars]
  | cons digit rest =>
    exact List.forall_mem_cons.mpr ⟨by decide, fun c member => isWordChar_of_isDigit (digits c member)⟩

theorem isWordChar_exponentChars {exponent : Option (Bool × List Char)}
    (digits : ∀ negative digits, exponent = some (negative, digits) → digits ≠ [] ∧ ∀ c ∈ digits, c.isDigit = true) :
    ∀ c ∈ exponentChars exponent, Token.isWordChar c = true := by
  rcases exponent with _ | ⟨negative, part⟩
  · simp [exponentChars]
  · refine List.forall_mem_cons.mpr ⟨by decide, List.forall_mem_cons.mpr ⟨by cases negative <;> decide, ?_⟩⟩
    exact fun c member => isWordChar_of_isDigit ((digits negative part rfl).2 c member)

theorem isWordChar_chars {spelling : Spelling} (sound : spelling.Sound) :
    ∀ c ∈ spelling.chars, Token.isWordChar c = true := by
  have sign : ∀ negative : Bool, ∀ c ∈ if negative then ['-'] else [], Token.isWordChar c = true :=
    fun negative => List.all_eq_true.mp (by cases negative <;> decide)
  intro c member
  simp only [chars, unsigned, List.mem_append] at member
  rcases member with isSign | isWhole | isFraction | isExponent
  · exact sign spelling.negative c isSign
  · exact isWordChar_of_isDigit (sound.wholeDigits c isWhole)
  · exact isWordChar_fractionChars sound.fractionDigits c isFraction
  · exact isWordChar_exponentChars sound.exponentDigits c isExponent

end Spelling

section Gathering

theorem le_foldl_digits (digits : List Nat) (significand : Nat) :
    significand ≤ digits.foldl (fun value digit => value * 10 + digit) significand := by
  induction digits generalizing significand with
  | nil => exact Nat.le_refl _
  | cons digit rest ih =>
    have first := ih (significand * 10 + digit)
    rw [List.foldl_cons]
    omega

/-- Digits of a number below the bound are gathered up. -/
theorem gather_eq {bound : Nat} {digits : List Nat} {significand : Nat}
    (below : digits.foldl (fun value digit => value * 10 + digit) significand < bound) :
    gather bound significand digits = (digits.foldl (fun value digit => value * 10 + digit) significand, []) := by
  induction digits generalizing significand with
  | nil => rfl
  | cons digit rest ih =>
    have fits : significand * 10 + digit < bound :=
      Nat.lt_of_le_of_lt (le_foldl_digits rest (significand * 10 + digit)) below
    rw [gather, if_pos fits, ih below, List.foldl_cons]

theorem foldl_digitValues (digits : List Char) (significand : Nat) :
    (digitValues digits).foldl (fun value digit => value * 10 + digit) significand =
      Nat.ofDigitChars 10 digits significand := by
  simp [digitValues, Nat.ofDigitChars_eq_foldl, List.foldl_map, Nat.mul_comm]

theorem gather_toDigits {bound number : Nat} (below : number < bound) :
    gather bound 0 (digitValues (Nat.toDigits 10 number)) = (number, []) := by
  have value : (digitValues (Nat.toDigits 10 number)).foldl (fun value digit => value * 10 + digit) 0 = number := by
    rw [foldl_digitValues, Nat.ofDigitChars_ten_toDigits]
  rw [gather_eq (by rw [value]; exact below), value]

end Gathering

end Numeral

namespace Number

open Numeral (Spelling)

/-- The spelling of a positive magnitude. -/
def magnitudeSpelling (code : Nat) : Spelling :=
  let (value, power) := Decimal.shortest code
  let digits := (toString value).toList
  let exponent : Int := power + digits.length - 1
  if -5 ≤ exponent ∧ exponent < 16 then
    if 0 ≤ power then ⟨false, digits ++ List.replicate power.toNat '0', ['0'], none⟩
    else if 0 ≤ exponent then ⟨false, digits.take (exponent.toNat + 1), digits.drop (exponent.toNat + 1), none⟩
    else ⟨false, ['0'], List.replicate (-exponent - 1).toNat '0' ++ digits, none⟩
  else ⟨false, digits.take 1, digits.drop 1, some (decide (exponent < 0), (toString exponent.natAbs).toList)⟩

def spelling : Number → Spelling
  | .integer value => ⟨decide (value < 0), (toString value.natAbs).toList, [], none⟩
  | .real value =>
    let magnitude := if value.isZero then ⟨false, ['0'], ['0'], none⟩ else magnitudeSpelling value.code
    { magnitude with negative := value.negative }

theorem fractionChars_of_ne_nil {fraction : List Char} (nonempty : fraction ≠ []) :
    Numeral.fractionChars fraction = '.' :: fraction := by
  cases fraction with
  | nil => exact absurd rfl nonempty
  | cons digit rest => rfl

/-- The digits that are written, and where the point and the exponent go. -/
theorem unsigned_magnitudeSpelling (code : Nat) : (magnitudeSpelling code).unsigned = magnitudeChars code := by
  unfold magnitudeSpelling magnitudeChars
  generalize Decimal.shortest code = shortest
  obtain ⟨value, power⟩ := shortest
  have length : 0 < (toString value).toList.length := by
    rw [Nat.toString_eq_repr, Nat.toList_repr]
    exact Nat.length_toDigits_pos
  dsimp only
  generalize (toString value).toList = digits at length ⊢
  split
  · split
    · simp [Spelling.unsigned, Numeral.fractionChars, Numeral.exponentChars]
    · split
      · have further : digits.drop ((power + digits.length - 1).toNat + 1) ≠ [] := by
          rw [ne_eq, List.drop_eq_nil_iff]
          omega
        simp only [Spelling.unsigned, fractionChars_of_ne_nil further, Numeral.exponentChars, List.append_nil]
      · have further : List.replicate (-(power + digits.length - 1) - 1).toNat '0' ++ digits ≠ [] :=
          List.append_ne_nil_of_right_ne_nil _ (List.ne_nil_of_length_pos length)
        simp only [Spelling.unsigned, fractionChars_of_ne_nil further, Numeral.exponentChars, List.append_nil,
          List.cons_append, List.nil_append]
  · have fraction : Numeral.fractionChars (digits.drop 1) =
        if digits.length = 1 then [] else '.' :: digits.drop 1 := by
      split
      · next single => rw [List.drop_eq_nil_of_le (Nat.le_of_eq single), Numeral.fractionChars]
      · exact fractionChars_of_ne_nil (by rw [ne_eq, List.drop_eq_nil_iff]; omega)
    simp only [Spelling.unsigned, fraction, Numeral.exponentChars, decide_eq_true_eq, List.append_assoc]

theorem chars_spelling (number : Number) : number.spelling.chars = number.chars := by
  cases number with
  | integer value =>
    rw [spelling, chars, Int.toString_eq_repr, Int.repr_eq_if]
    by_cases negative : value < 0
    · rw [if_neg (Int.not_le.mpr negative)]
      have magnitude : (-value).toNat = value.natAbs := by omega
      simp [Spelling.chars, Spelling.unsigned, Numeral.fractionChars, Numeral.exponentChars, negative, magnitude]
    · rw [if_pos (Int.not_lt.mp negative)]
      have magnitude : value.toNat = value.natAbs := by omega
      simp [Spelling.chars, Spelling.unsigned, Numeral.fractionChars, Numeral.exponentChars, negative, magnitude]
  | real value =>
    have magnitude : (if value.isZero then ⟨false, ['0'], ['0'], none⟩ else magnitudeSpelling value.code).unsigned =
        if value.isZero then ['0', '.', '0'] else magnitudeChars value.code := by
      split
      · rfl
      · exact unsigned_magnitudeSpelling value.code
    rw [chars, ← magnitude, spelling, Spelling.chars]
    cases value.negative <;> rfl

theorem sound_whole {number : Nat} (negative : Bool) : Spelling.Sound ⟨negative, Nat.toDigits 10 number, [], none⟩ where
  whole := Numeral.isWhole_toDigits number
  wholeDigits := Numeral.isDigit_toDigits number
  fractionDigits := by simp
  exponentDigits := by simp

theorem isDigit_zeros (count : Nat) : ∀ c ∈ List.replicate count '0', c.isDigit = true := by
  intro c member
  rw [List.eq_of_mem_replicate member]
  rfl

theorem isWhole_take {digits : List Char} (whole : Numeral.isWhole digits = true) (count : Nat) :
    Numeral.isWhole (digits.take (count + 1)) = true := by
  cases digits with
  | nil => cases whole
  | cons first rest =>
    by_cases zero : first = '0'
    · subst zero
      cases rest with
      | nil => simp [Numeral.isWhole]
      | cons second rest => simp [Numeral.isWhole] at whole
    · exact Numeral.isWhole_of_ne zero

theorem isWhole_take_one {digits : List Char} (length : 0 < digits.length) :
    Numeral.isWhole (digits.take 1) = true := by
  cases digits with
  | nil => cases length
  | cons first rest =>
    by_cases zero : first = '0'
    · simp [zero, Numeral.isWhole]
    · exact Numeral.isWhole_of_ne zero

/-- A number with zeros after it has no needless zero in front if it is positive, or if there are none. -/
theorem isWhole_append_zeros {number count : Nat} (positive : 0 < count → 0 < number) :
    Numeral.isWhole (Nat.toDigits 10 number ++ List.replicate count '0') = true := by
  rcases Nat.eq_zero_or_pos count with rfl | zeros
  · simpa using Numeral.isWhole_toDigits number
  · obtain ⟨first, rest, digits, leading⟩ := Numeral.head_toDigits (positive zeros)
    rw [digits]
    exact Numeral.isWhole_of_ne leading

theorem sound_magnitudeSpelling {code : Nat} (positive : 0 < code) (finite : code < 2047 * Binary64.binade) :
    (magnitudeSpelling code).Sound := by
  have zeros := Decimal.positive_shortest positive finite
  unfold magnitudeSpelling
  generalize Decimal.shortest code = shortest at zeros ⊢
  obtain ⟨value, power⟩ := shortest
  dsimp only at zeros ⊢
  rw [Nat.toString_eq_repr, Nat.toList_repr]
  have isDigits := Numeral.isDigit_toDigits value
  have someZeros : 0 < power.toNat → 0 < value := fun raised => zeros (by omega)
  split
  · split
    · exact {
        whole := isWhole_append_zeros someZeros
        wholeDigits := fun c member => (List.mem_append.mp member).elim (isDigits c) (isDigit_zeros _ c)
        fractionDigits := isDigit_zeros 1
        exponentDigits := by simp }
    · split
      · exact {
          whole := isWhole_take (Numeral.isWhole_toDigits value) _
          wholeDigits := fun c member => isDigits c (List.mem_of_mem_take member)
          fractionDigits := fun c member => isDigits c (List.mem_of_mem_drop member)
          exponentDigits := by simp }
      · exact {
          whole := rfl
          wholeDigits := isDigit_zeros 1
          fractionDigits := fun c member => (List.mem_append.mp member).elim (isDigit_zeros _ c) (isDigits c)
          exponentDigits := by simp }
  · exact {
      whole := isWhole_take_one Nat.length_toDigits_pos
      wholeDigits := fun c member => isDigits c (List.mem_of_mem_take member)
      fractionDigits := fun c member => isDigits c (List.mem_of_mem_drop member)
      exponentDigits := by
        rintro negative digits same
        cases same
        rw [Nat.toString_eq_repr, Nat.toList_repr]
        exact ⟨Nat.toDigits_ne_nil, Numeral.isDigit_toDigits _⟩ }

/-- Every number is spelled as a numeral should be. -/
theorem sound_spelling (number : Number) : number.spelling.Sound := by
  cases number with
  | integer value =>
    rw [spelling, Nat.toString_eq_repr, Nat.toList_repr]
    exact sound_whole _
  | real value =>
    have magnitude : Spelling.Sound (if value.isZero then ⟨false, ['0'], ['0'], none⟩ else magnitudeSpelling value.code) := by
      split
      · exact ⟨rfl, isDigit_zeros 1, isDigit_zeros 1, by simp⟩
      · next positive =>
        have nonzero : value.code ≠ 0 := by simpa [Binary64.isZero] using positive
        exact sound_magnitudeSpelling (Nat.pos_of_ne_zero nonzero) value.finite
    exact ⟨magnitude.whole, magnitude.wholeDigits, magnitude.fractionDigits, magnitude.exponentDigits⟩

/-- What the characters of a number are read as: a number again, unless it overflows. -/
def reread (number : Number) : Option Number := number.spelling.numeral.value?

theorem ofChars?_chars (number : Number) : Numeral.ofChars? number.chars = some number.spelling.numeral := by
  rw [← chars_spelling]
  exact Numeral.ofChars?_chars number.sound_spelling

/-- Whether a number is read as it was written if it is an integer: 64 bits, with a sign or without. -/
def InRange : Number → Prop
  | .integer value => -0x8000000000000000 ≤ value ∧ value < 0x10000000000000000
  | .real _ => True

theorem reread_integer {value : Int} (range : (integer value).InRange) : (integer value).reread = some (.integer value) := by
  obtain ⟨low, high⟩ := range
  have gathered : Numeral.gather 0x10000000000000000 0 (Numeral.digitValues (Nat.toDigits 10 value.natAbs)) =
      (value.natAbs, []) := Numeral.gather_toDigits (by omega)
  have noFraction : Numeral.digitValues [] = [] := rfl
  rw [reread, spelling, Nat.toString_eq_repr, Nat.toList_repr]
  by_cases negative : value < 0
  · have bounds : 0 < value.natAbs ∧ value.natAbs ≤ 0x8000000000000000 := by omega
    have same : -(value.natAbs : Int) = value := by omega
    generalize value.natAbs = magnitude at gathered bounds same
    simp [Spelling.numeral, Numeral.value?, gathered, negative, bounds, same, noFraction]
  · have same : (value.natAbs : Int) = value := by omega
    generalize value.natAbs = magnitude at gathered same
    simp [Spelling.numeral, Numeral.value?, gathered, negative, same, noFraction]

end Number

end WorkflowSynthesis
