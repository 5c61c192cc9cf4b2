import WorkflowSynthesis.Proofs.Decimal.Rounding
import WorkflowSynthesis.Proofs.Json.Parsed

/-!
No number overflows when it is read from its own characters. It may become another number, because both
steps of reading round, but it stays finite.
-/

namespace WorkflowSynthesis

namespace Numeral

open Binary64 (magnitude limit)

/-- Below this a numeral can be read: it leaves room for rounding both the significand and the power of ten. -/
def safe : ℚ := (2 ^ 53 - 8) * 2 ^ (971 : Int)

theorem isSome_shrink (times : Nat) (value : Binary64) : (shrink times value).isSome := by
  induction times generalizing value with
  | zero => rfl
  | succ times ih =>
    unfold shrink
    split
    · rfl
    · obtain ⟨divisor, found⟩ := Binary64.exists_powerOfTen? (Nat.le_refl 308)
      have large := (Binary64.magnitude_powerOfTen? found).1
      obtain ⟨quotient, divided⟩ : ∃ quotient, value.div? divisor = some quotient :=
        Option.isSome_iff_exists.mp (Binary64.isSome_div? large)
      simp only [found, divided, Option.bind_eq_bind, Option.bind_some]
      exact ih quotient

theorem safe_nonneg : 0 ≤ safe :=
  mul_nonneg (by norm_num) (zpow_nonneg (by norm_num) _)

theorem safe_mul_lt : safe * ((1 + 1 / 2 ^ 53) * (1 + 1 / 2 ^ 53)) < limit := by
  have step : (2 : ℚ) ^ (971 : Int) = 2 ^ (970 : Int) * 2 := zpow_add_one₀ (by norm_num) 970
  have unit : (0 : ℚ) < 2 ^ (970 : Int) := zpow_pos (by norm_num) _
  rw [safe, limit, step]
  generalize (2 : ℚ) ^ (970 : Int) = step970 at unit
  calc
    (2 ^ 53 - 8) * (step970 * 2) * ((1 + 1 / 2 ^ 53) * (1 + 1 / 2 ^ 53))
      = (2 ^ 53 - 8) * 2 * ((1 + 1 / 2 ^ 53) * (1 + 1 / 2 ^ 53)) * step970 := by ring
    _ < (2 ^ 54 - 1) * step970 := mul_lt_mul_of_pos_right (by norm_num) unit

theorem safe_lt_pow {size : Nat} (huge : 308 < size) : safe < (10 : ℚ) ^ size := by
  have same : safe = ((2 ^ 53 - 8) * 2 ^ 971 : Nat) := by
    rw [safe, Nat.cast_mul, Nat.cast_pow, ← zpow_natCast]
    norm_num
  have bound : (2 ^ 53 - 8) * 2 ^ 971 < 10 ^ (308 + 1) := by decide +kernel
  have larger : ∀ least, least < size → 10 ^ (least + 1) ≤ 10 ^ size := fun least less =>
    Nat.pow_le_pow_right (by decide) less
  have power : (10 : ℚ) ^ size = (10 ^ size : Nat) := (Nat.cast_pow 10 size).symm
  rw [same, power, Nat.cast_lt]
  exact Nat.lt_of_lt_of_le bound (larger 308 huge)

section Scaling

variable {significand : Nat} {value : Binary64} (rounded : Binary64.ofNat? significand = some value)
include rounded

/-- A safe product with a power of ten that is a number does not overflow. -/
theorem isSome_mul_powerOfTen {size : Nat} (small : size ≤ 308) (product : (significand : ℚ) * 10 ^ size ≤ safe) :
    ((Binary64.powerOfTen? size).bind value.mul?).isSome := by
  have close := Binary64.magnitude_ofNat? rounded
  obtain ⟨power, found⟩ := Binary64.exists_powerOfTen? small
  obtain ⟨_, powerClose⟩ := Binary64.magnitude_powerOfTen? found
  rw [found, Option.bind_some]
  refine Binary64.isSome_mul? ?_
  calc
    magnitude value.code * magnitude power.code
      ≤ significand * (1 + 1 / 2 ^ 53) * (10 ^ size * (1 + 1 / 2 ^ 53)) :=
        mul_le_mul close powerClose (Binary64.magnitude_nonneg _) (by positivity)
    _ = significand * 10 ^ size * ((1 + 1 / 2 ^ 53) * (1 + 1 / 2 ^ 53)) := by ring
    _ ≤ safe * ((1 + 1 / 2 ^ 53) * (1 + 1 / 2 ^ 53)) := mul_le_mul_of_nonneg_right product (by positivity)
    _ < limit := safe_mul_lt

/-- With any other power of ten only the product with zero is safe. -/
theorem isZero_of_safe {size : Nat} (huge : 308 < size) (product : (significand : ℚ) * 10 ^ size ≤ safe) :
    value.isZero = true := by
  rcases Nat.eq_zero_or_pos significand with rfl | positive
  · have zero := Binary64.code_of_ofRatio? rounded
    simp [Binary64.isZero, zero, Binary64.codeOfRatio]
  · have above : (10 : ℚ) ^ size ≤ significand * 10 ^ size :=
      le_mul_of_one_le_left (by positivity) (by exact_mod_cast positive)
    exact absurd (safe_lt_pow huge) (not_lt.mpr (above.trans product))

end Scaling

/-- A significand of 64 bits times a power of ten does not overflow if the product is safe. -/
theorem isSome_scale? {significand : Nat} {exponent : Int} (bits : significand < 0x10000000000000000)
    (fits : 0 ≤ exponent → (significand : ℚ) * 10 ^ exponent ≤ safe) : (scale? significand exponent).isSome := by
  obtain ⟨value, rounded⟩ := Binary64.exists_ofNat? (Binary64.lt_limit bits (by decide +kernel))
  rw [scale?, rounded, Option.bind_eq_bind, Option.bind_some]
  split
  · next up =>
    obtain ⟨size, rfl⟩ := Int.eq_ofNat_of_zero_le up
    have product := fits up
    rw [zpow_natCast] at product
    split
    · exact isSome_mul_powerOfTen rounded (by omega) product
    · rw [if_pos (isZero_of_safe rounded (by omega) product)]
      rfl
  · next down =>
    have fits : ((-exponent).toNat - 308 * (((-exponent).toNat - 1) / 308)) ≤ 308 := by omega
    obtain ⟨shrunk, isShrunk⟩ := Option.isSome_iff_exists.mp (isSome_shrink (((-exponent).toNat - 1) / 308) value)
    obtain ⟨power, found⟩ := Binary64.exists_powerOfTen? fits
    simp only [isShrunk, Option.bind_some]
    split
    · rfl
    · rw [found, Option.bind_some]
      exact Binary64.isSome_div? (Binary64.magnitude_powerOfTen? found).1

section Gathering

variable (bound significand : Nat)

/-- Digits are gathered from the front; those left over are dropped. -/
theorem gather_spec (digits : List Nat) :
    ∃ read, digits = read ++ (gather bound significand digits).2 ∧
      (gather bound significand digits).1 = read.foldl (fun value digit => value * 10 + digit) significand := by
  induction digits generalizing significand with
  | nil => exact ⟨[], rfl, rfl⟩
  | cons digit rest ih =>
    unfold gather
    split
    · obtain ⟨read, split, value⟩ := ih (significand * 10 + digit)
      exact ⟨digit :: read, congrArg (digit :: ·) split, value⟩
    · exact ⟨[], rfl, rfl⟩

theorem mul_pow_le_foldl (digits : List Nat) (significand : Nat) :
    significand * 10 ^ digits.length ≤ digits.foldl (fun value digit => value * 10 + digit) significand := by
  induction digits generalizing significand with
  | nil => simp
  | cons digit rest ih =>
    calc
      significand * 10 ^ (rest.length + 1) = significand * 10 * 10 ^ rest.length := by
        rw [Nat.pow_succ, Nat.mul_comm (10 ^ rest.length), Nat.mul_assoc]
      _ ≤ (significand * 10 + digit) * 10 ^ rest.length := Nat.mul_le_mul_right _ (Nat.le_add_right _ _)
      _ ≤ rest.foldl (fun value digit => value * 10 + digit) (significand * 10 + digit) := ih _

/-- What is gathered, with a zero for every digit left over, is at most the whole. -/
theorem gather_mul_pow_le (digits : List Nat) :
    (gather bound significand digits).1 * 10 ^ (gather bound significand digits).2.length ≤
      digits.foldl (fun value digit => value * 10 + digit) significand := by
  obtain ⟨read, split, value⟩ := gather_spec bound significand digits
  conv_rhs => rw [split, List.foldl_append, ← value]
  exact mul_pow_le_foldl _ _

theorem length_gather_le (digits : List Nat) : (gather bound significand digits).2.length ≤ digits.length := by
  obtain ⟨read, split, _⟩ := gather_spec bound significand digits
  have lengths := congrArg List.length split
  rw [List.length_append] at lengths
  omega

end Gathering

section Values

/-- The number that digits spell. -/
def decimal (digits : List Nat) : Nat := digits.foldl (fun value digit => value * 10 + digit) 0

/-- The power of ten of the last digit of a numeral. -/
def lastPower (numeral : Numeral) : Int :=
  (match numeral.exponent with
    | none => 0
    | some (down, digits) => if down then -(decimal digits : Int) else decimal digits) - numeral.fraction.length

/-- Whether a numeral can be read without overflow: its magnitude is safe, its whole part has 64 bits, and
its exponent, if it goes up, has 31. -/
structure Safe (numeral : Numeral) : Prop where
  whole : decimal numeral.whole < 0x10000000000000000
  exponent : ∀ digits, numeral.exponent = some (false, digits) → decimal digits < 0x80000000
  magnitude : (decimal (numeral.whole ++ numeral.fraction) : ℚ) * 10 ^ numeral.lastPower ≤ safe

theorem decimal_of_gather {bound size : Nat} {digits : List Nat} (found : gather bound 0 digits = (size, [])) :
    size = decimal digits := by
  obtain ⟨read, split, value⟩ := gather_spec bound 0 digits
  rw [found] at split value
  rw [List.append_nil] at split
  rw [split, decimal]
  exact value

theorem isSome_real? {negative : Bool} {significand : Nat} {exponent : Int}
    (read : (scale? significand exponent).isSome) : (real? negative significand exponent).isSome := by
  obtain ⟨value, found⟩ := Option.isSome_iff_exists.mp read
  simp [real?, found]

/-- Digits of the fraction that are left over only make the product smaller. -/
theorem gather_le_safe {whole fraction : List Nat} {power : Int}
    (small : (decimal (whole ++ fraction) : ℚ) * 10 ^ power ≤ safe) :
    ((gather 0x10000000000000000 (decimal whole) fraction).1 : ℚ) *
      10 ^ ((gather 0x10000000000000000 (decimal whole) fraction).2.length + power) ≤ safe := by
  have joined : fraction.foldl (fun value digit => value * 10 + digit) (decimal whole) = decimal (whole ++ fraction) :=
    List.foldl_append.symm
  have least := gather_mul_pow_le 0x10000000000000000 (decimal whole) fraction
  rw [joined] at least
  rw [zpow_add₀ (by norm_num), zpow_natCast, ← mul_assoc]
  refine (mul_le_mul_of_nonneg_right ?_ (zpow_nonneg (by norm_num) _)).trans small
  exact_mod_cast least

theorem isSome_value? {numeral : Numeral} (safe' : numeral.Safe) : numeral.value?.isSome := by
  obtain ⟨negative, whole, fraction, exponent⟩ := numeral
  obtain ⟨wholeBits, exponentBits, small⟩ := safe'
  dsimp only at wholeBits exponentBits small
  have gathered : gather 0x10000000000000000 0 whole = (decimal whole, []) := gather_eq wholeBits
  have bits := gather_lt fraction wholeBits
  have few := length_gather_le 0x10000000000000000 (decimal whole) fraction
  have product : ∀ shift : Int, lastPower ⟨negative, whole, fraction, exponent⟩ = shift - fraction.length →
      ((gather 0x10000000000000000 (decimal whole) fraction).1 : ℚ) * 10 ^ ((([] : List Nat).length : Int) -
        ((fraction.length - (gather 0x10000000000000000 (decimal whole) fraction).2.length : Nat) : Int) + shift) ≤
          safe := by
    intro shift same
    refine le_of_eq_of_le ?_ (gather_le_safe small)
    congr 2
    rw [same, List.length_nil]
    omega
  unfold value?
  rw [gathered]
  dsimp only
  split
  · split
    · rfl
    · split
      · rfl
      · refine isSome_real? (isSome_scale? wholeBits fun _ => ?_)
        simpa [lastPower] using small
  · split
    · refine isSome_real? (isSome_scale? bits fun _ => ?_)
      have fits := product 0 rfl
      rwa [Int.add_zero] at fits
    · next down digits _ =>
      split
      · next size found =>
        obtain rfl : size = decimal digits := decimal_of_gather found
        refine isSome_real? (isSome_scale? bits fun _ => ?_)
        cases down with
        | true => exact product (-(decimal digits : Int)) rfl
        | false => exact product (decimal digits) rfl
      · next long =>
        have isDown : down = true := by
          refine Bool.eq_true_of_not_eq_false fun up => ?_
          exact long _ (gather_eq (exponentBits digits (by rw [up])))
        rw [isDown, if_neg (by simp)]
        exact isSome_real? (isSome_scale? (by decide) fun _ => by simp [safe_nonneg])

theorem length_digitValues (chars : List Char) : (digitValues chars).length = chars.length := List.length_map _

theorem decimal_digitValues (chars : List Char) : decimal (digitValues chars) = Nat.ofDigitChars 10 chars 0 :=
  foldl_digitValues chars 0

theorem decimal_lt {chars : List Char} (digits : ∀ c ∈ chars, c.isDigit = true) :
    decimal (digitValues chars) < 10 ^ chars.length := by
  have run : ∀ significand : Nat, (digitValues chars).foldl (fun value digit => value * 10 + digit) significand <
      (significand + 1) * 10 ^ chars.length := by
    induction chars with
    | nil => simp [digitValues]
    | cons c rest ih =>
      obtain ⟨first, others⟩ := List.forall_mem_cons.mp digits
      intro significand
      have small : c.toNat - '0'.toNat < 10 := by
        simp only [Char.isDigit, Bool.and_eq_true, decide_eq_true_eq, UInt32.le_iff_toNat_le] at first
        have high : c.toNat ≤ 57 := first.2
        have zero : '0'.toNat = 48 := rfl
        omega
      calc
        (digitValues rest).foldl (fun value digit => value * 10 + digit) (significand * 10 + (c.toNat - '0'.toNat))
          < (significand * 10 + (c.toNat - '0'.toNat) + 1) * 10 ^ rest.length := ih others _
        _ ≤ (significand + 1) * 10 * 10 ^ rest.length := Nat.mul_le_mul_right _ (by omega)
        _ = (significand + 1) * 10 ^ (rest.length + 1) := by
            rw [Nat.pow_succ, Nat.mul_assoc, Nat.mul_comm 10]
  have whole := run 0
  rwa [Nat.zero_add, Nat.one_mul] at whole

end Values

end Numeral

namespace Number

open Numeral (Spelling decimal digitValues safe)

theorem pow_le_of_length {value : Nat} (positive : 0 < value) : 10 ^ ((Nat.toDigits 10 value).length - 1) ≤ value := by
  rcases Nat.eq_zero_or_pos ((Nat.toDigits 10 value).length - 1) with zero | several
  · rw [zero]
    exact positive
  · refine Nat.not_lt.mp fun less => ?_
    have short := (Nat.length_toDigits_le_iff (by decide) several).mpr less
    omega

theorem whole_lt {spelling : Spelling} (digits : ∀ c ∈ spelling.whole, c.isDigit = true)
    (short : spelling.whole.length ≤ 16) : decimal spelling.numeral.whole < 0x10000000000000000 :=
  calc
    decimal (digitValues spelling.whole) < 10 ^ spelling.whole.length := Numeral.decimal_lt digits
    _ ≤ 10 ^ 16 := Nat.pow_le_pow_right (by decide) short
    _ < 0x10000000000000000 := by decide

/-- A spelling says a number times a power of ten, with any number of zeros written after the number. -/
theorem magnitude_le_safe {spelling : Spelling} {value : Nat} {power : Int} (zeros : Nat) (small : (value : ℚ) * 10 ^ power ≤ safe)
    (digits : Nat.ofDigitChars 10 (spelling.whole ++ spelling.fraction) 0 = 10 ^ zeros * value)
    (last : spelling.numeral.lastPower + zeros = power) :
    (decimal (spelling.numeral.whole ++ spelling.numeral.fraction) : ℚ) * 10 ^ spelling.numeral.lastPower ≤ safe := by
  have joined : spelling.numeral.whole ++ spelling.numeral.fraction =
      digitValues (spelling.whole ++ spelling.fraction) := List.map_append.symm
  rw [joined, Numeral.decimal_digitValues, digits, Nat.cast_mul, Nat.cast_pow]
  rw [← last, zpow_add₀ (by norm_num), zpow_natCast] at small
  push_cast
  linarith

theorem exponent_le {value digits : Nat} {power exponent : Int} (small : (value : ℚ) * 10 ^ power ≤ safe)
    (nonempty : 0 < digits) (least : 10 ^ (digits - 1) ≤ value) (isExponent : power + digits - 1 = exponent) :
    exponent ≤ 308 := by
  refine Int.not_lt.mp fun huge => ?_
  obtain ⟨size, rfl⟩ := Int.eq_ofNat_of_zero_le (show 0 ≤ exponent by omega)
  have split : (size : Int) = ((digits - 1 : Nat) : Int) + power := by omega
  have below : (10 : ℚ) ^ size ≤ safe :=
    calc
      (10 : ℚ) ^ size = ((10 ^ (digits - 1) : Nat) : ℚ) * 10 ^ power := by
        rw [← zpow_natCast, split, zpow_add₀ (by norm_num), zpow_natCast, Nat.cast_pow, Nat.cast_ofNat]
      _ ≤ value * 10 ^ power := mul_le_mul_of_nonneg_right (Nat.cast_le.mpr least) (zpow_nonneg (by norm_num) _)
      _ ≤ safe := small
  exact absurd (Numeral.safe_lt_pow (by omega)) (not_lt.mpr below)

section Shapes

variable {digits : List Char} {value : Nat} {power : Int} (isDigits : ∀ c ∈ digits, c.isDigit = true)
  (whole : Nat.ofDigitChars 10 digits 0 = value) (small : (value : ℚ) * 10 ^ power ≤ safe)
include isDigits whole small

/-- Digits with zeros after them, and a point. -/
theorem safe_zerosAfter (up : 0 ≤ power) (short : digits.length + power ≤ 16) :
    Numeral.Safe (Spelling.numeral ⟨false, digits ++ List.replicate power.toNat '0', ['0'], none⟩) where
  whole := by
    refine whole_lt (fun c member => (List.mem_append.mp member).elim (isDigits c) (isDigit_zeros _ c)) ?_
    simp only [List.length_append, List.length_replicate]
    omega
  exponent := by simp [Spelling.numeral]
  magnitude := by
    refine magnitude_le_safe (power.toNat + 1) small ?_ ?_
    · rw [List.append_assoc, show ['0'] = List.replicate 1 '0' from rfl, List.replicate_append_replicate,
        Nat.ofDigitChars_append, Nat.ofDigitChars_replicate_zero, whole]
    · simp only [Numeral.lastPower, Spelling.numeral, Option.map_none, Numeral.length_digitValues, List.length_singleton]
      omega

/-- Digits with a point among them. -/
theorem safe_point {place : Nat} (inside : place ≤ 16) (last : power = -((digits.length - place : Nat) : Int)) :
    Numeral.Safe (Spelling.numeral ⟨false, digits.take place, digits.drop place, none⟩) where
  whole := whole_lt (fun c member => isDigits c (List.mem_of_mem_take member))
    ((List.length_take_le _ _).trans inside)
  exponent := by simp [Spelling.numeral]
  magnitude := by
    refine magnitude_le_safe 0 small (by simp [whole]) ?_
    simp only [Numeral.lastPower, Spelling.numeral, Option.map_none, Numeral.length_digitValues, List.length_drop]
    omega

omit isDigits in
/-- Digits behind a point and zeros. -/
theorem safe_zerosBefore {zeros : Nat} (last : power = -((zeros + digits.length : Nat) : Int)) :
    Numeral.Safe (Spelling.numeral ⟨false, ['0'], List.replicate zeros '0' ++ digits, none⟩) where
  whole := whole_lt (isDigit_zeros 1) (by simp)
  exponent := by simp [Spelling.numeral]
  magnitude := by
    refine magnitude_le_safe 0 small ?_ ?_
    · rw [← List.append_assoc, show ['0'] = List.replicate 1 '0' from rfl, List.replicate_append_replicate,
        Nat.ofDigitChars_append, Nat.ofDigitChars_replicate_zero, Nat.mul_zero, whole]
      simp
    · simp only [Numeral.lastPower, Spelling.numeral, Option.map_none, Numeral.length_digitValues, List.length_append,
        List.length_replicate]
      omega

/-- Digits with a point behind the first of them, and an exponent. -/
theorem safe_exponent {exponent : Int} (most : 0 ≤ exponent → exponent ≤ 308) (nonempty : 0 < digits.length)
    (isExponent : power + digits.length - 1 = exponent) :
    Numeral.Safe (Spelling.numeral ⟨false, digits.take 1, digits.drop 1,
      some (decide (exponent < 0), Nat.toDigits 10 exponent.natAbs)⟩) := by
  have size : decimal (digitValues (Nat.toDigits 10 exponent.natAbs)) = exponent.natAbs := by
    rw [Numeral.decimal_digitValues, Nat.ofDigitChars_ten_toDigits]
  exact {
    whole := by
      refine whole_lt (fun c member => isDigits c (List.mem_of_mem_take member)) ?_
      exact (List.length_take_le _ _).trans (by decide)
    exponent := by
      intro exponentDigits same
      simp only [Spelling.numeral, Option.map_some, Option.some.injEq, Prod.mk.injEq, decide_eq_false_iff_not,
        Int.not_lt] at same
      obtain ⟨up, rfl⟩ := same
      have bound := most up
      rw [size]
      omega
    magnitude := by
      refine magnitude_le_safe 0 small (by rw [List.take_append_drop, whole, Nat.pow_zero, Nat.one_mul]) ?_
      simp only [Numeral.lastPower, Spelling.numeral, Option.map_some, size, decide_eq_true_eq,
        Numeral.length_digitValues, List.length_drop]
      split <;> omega }

end Shapes

/-- The spelling of a magnitude is safe if its shortest decimal is. -/
theorem safe_magnitudeSpelling {code : Nat} (positive : 0 < code) (finite : code < 2047 * Binary64.binade)
    (small : ((Decimal.shortest code).1 : ℚ) * 10 ^ (Decimal.shortest code).2 ≤ safe) :
    (magnitudeSpelling code).numeral.Safe := by
  have nonzero := Decimal.positive_shortest positive finite
  unfold magnitudeSpelling
  generalize Decimal.shortest code = shortest at nonzero small ⊢
  obtain ⟨value, power⟩ := shortest
  dsimp only at nonzero small ⊢
  rw [Nat.toString_eq_repr, Nat.toList_repr]
  have isDigits := Numeral.isDigit_toDigits value
  have whole : Nat.ofDigitChars 10 (Nat.toDigits 10 value) 0 = value := Nat.ofDigitChars_ten_toDigits
  have length : 0 < (Nat.toDigits 10 value).length := Nat.length_toDigits_pos
  split
  · next range =>
    split
    · next up => exact safe_zerosAfter isDigits whole small up (by omega)
    · split
      · exact safe_point isDigits whole small (by omega) (by omega)
      · exact safe_zerosBefore whole small (by omega)
  · rw [Nat.toString_eq_repr, Nat.toList_repr]
    refine safe_exponent isDigits whole small (fun up => ?_) length rfl
    -- The shortest decimal of a positive magnitude is zero only if no zeros follow it.
    rcases Nat.eq_zero_or_pos value with rfl | nonzero
    · have single : (Nat.toDigits 10 0).length = 1 := rfl
      omega
    · exact exponent_le small length (pow_le_of_length nonzero) rfl

/-- But for the last few, the magnitudes of the highest binade have smaller mantissas than it could hold. -/
theorem mantissa_le_of_top {code : Nat} (inside : code < 2047 * Binary64.binade - 16)
    (top : 971 ≤ (Binary64.parts code).2) : (Binary64.parts code).1 ≤ 2 * Binary64.binade - 17 := by
  unfold Binary64.parts at top ⊢
  have split := Nat.div_add_mod code Binary64.binade
  split at top
  · dsimp only at top
    omega
  · next large =>
    have below : code / Binary64.binade < 2047 := Nat.div_lt_of_lt_mul (by omega)
    have quotient : code / Binary64.binade = 2046 := by
      dsimp only at top
      omega
    rw [quotient] at split
    rw [if_neg large]
    dsimp only
    omega

/-- But for the last few, magnitudes leave room above them. -/
theorem upper_le_safe {code : Nat} (positive : 0 < code) (inside : code < 2047 * Binary64.binade - 16) :
    (4 * (Binary64.parts code).1 + 2 : ℚ) * 2 ^ ((Binary64.parts code).2 - 2) ≤ safe := by
  obtain ⟨_, mantissa, _, exponent⟩ := Decimal.parts_bounds positive (by omega)
  have step : (2 : ℚ) ^ (971 : Int) = 2 ^ (968 : Int) * 8 := by
    rw [show (971 : Int) = 968 + 3 from rfl, zpow_add₀ (by norm_num)]
    norm_num
  have unit : (0 : ℚ) < 2 ^ (968 : Int) := zpow_pos (by norm_num) _
  rcases lt_or_ge (Binary64.parts code).2 971 with lower | top
  · have power : (2 : ℚ) ^ ((Binary64.parts code).2 - 2) ≤ 2 ^ (968 : Int) :=
      zpow_le_zpow_right₀ (by norm_num) (by omega)
    have top : (4 * (Binary64.parts code).1 + 2 : ℚ) ≤ 4 * 9007199254740992 + 2 := by
      have most : ((Binary64.parts code).1 : ℚ) ≤ 9007199254740992 := Nat.cast_le.mpr (Nat.le_of_lt mantissa)
      linarith
    refine (mul_le_mul top power (zpow_nonneg (by norm_num) _) (by norm_num)).trans ?_
    rw [safe, step]
    generalize (2 : ℚ) ^ (968 : Int) = step968 at unit
    norm_num
    linarith
  · have last := mantissa_le_of_top inside top
    have most : (4 * (Binary64.parts code).1 + 2 : ℚ) ≤ 36028797018963902 := by
      have bound : ((Binary64.parts code).1 : ℚ) ≤ 9007199254740975 := by exact_mod_cast last
      linarith
    have same : (Binary64.parts code).2 - 2 = 968 + 1 := by omega
    rw [same, zpow_add_one₀ (by norm_num), safe, step]
    generalize (2 : ℚ) ^ (968 : Int) = step968 at unit
    calc
      (4 * (Binary64.parts code).1 + 2 : ℚ) * (step968 * 2) ≤ 36028797018963902 * (step968 * 2) :=
        mul_le_mul_of_nonneg_right most (by positivity)
      _ ≤ (2 ^ 53 - 8) * (step968 * 8) := by
        norm_num
        linarith

/-- The last few magnitudes are read without overflow, too. -/
theorem isSome_value?_last : ∀ place < 16, ∀ negative : Bool,
    ({ magnitudeSpelling (2047 * Binary64.binade - 1 - place) with negative }.numeral.value?).isSome = true := by
  decide +kernel

/-- Every real number is read again as some number. -/
theorem isSome_reread (real : Binary64) : (Number.real real).reread.isSome := by
  have signed : ∀ {spelling : Spelling} (negative : Bool), spelling.numeral.Safe →
      ({ spelling with negative }.numeral.value?).isSome := by
    intro spelling negative safe'
    exact Numeral.isSome_value? ⟨safe'.whole, safe'.exponent, safe'.magnitude⟩
  rw [reread, spelling]
  split
  · refine signed real.negative ⟨by decide, by simp [Spelling.numeral], ?_⟩
    simp [Spelling.numeral, digitValues, decimal, Numeral.safe_nonneg]
  · next nonzero =>
    have positive : 0 < real.code := Nat.pos_of_ne_zero (by simpa [Binary64.isZero] using nonzero)
    rcases Nat.lt_or_ge real.code (2047 * Binary64.binade - 16) with inside | last
    · have small := (Decimal.shortest_le real.code).trans (upper_le_safe positive inside)
      exact signed real.negative (safe_magnitudeSpelling positive real.finite small)
    · have finite := real.finite
      have place : real.code = 2047 * Binary64.binade - 1 - (2047 * Binary64.binade - 1 - real.code) := by omega
      rw [place]
      exact isSome_value?_last _ (by omega) real.negative

end Number

end WorkflowSynthesis
