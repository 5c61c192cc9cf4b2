import Mathlib.Algebra.Order.Field.Power
import Mathlib.Algebra.Order.Field.Rat
import Mathlib.Tactic.FieldSimp
import Mathlib.Tactic.Linarith
import Mathlib.Tactic.NormNum
import Mathlib.Tactic.Positivity
import Mathlib.Tactic.Ring
import WorkflowSynthesis.Proofs.Decimal.Shortest

/-!
How far rounding leads away from a fraction, and up to which fraction it does not overflow. Magnitudes are
compared as rational numbers.
-/

namespace WorkflowSynthesis

namespace Binary64

/-- The magnitude that a code stands for. -/
def magnitude (code : Nat) : ℚ := (parts code).1 * 2 ^ (parts code).2

/-- The middle between the last finite magnitude and the next one: from here on fractions overflow. -/
def limit : ℚ := (2 ^ 54 - 1) * 2 ^ (970 : Int)

section Fractions

variable {numerator denominator : Nat}

/-- The fraction in units of a power of two. -/
theorem scaleDown_div (numerator denominator : Nat) (exponent : Int) :
    ((scaleDown numerator denominator exponent).1 : ℚ) / (scaleDown numerator denominator exponent).2 =
      numerator / denominator / 2 ^ exponent := by
  obtain ⟨size, rfl | rfl⟩ := exponent.eq_nat_or_neg
  · simp [scaleDown, div_div]
  · simp [scaleDown, div_mul_eq_mul_div]

theorem scaleDown_positive (numerator : Nat) (positive : 0 < denominator) (exponent : Int) :
    0 < (scaleDown numerator denominator exponent).2 :=
  Nat.mul_pos positive (Nat.pow_pos (by decide))

/-- A fraction lies within a factor of two of the quotient of two powers of two. -/
theorem log2_bounds (someNumerator : 0 < numerator) (someDenominator : 0 < denominator) :
    (2 : ℚ) ^ ((numerator.log2 : Int) - denominator.log2 - 1) < numerator / denominator ∧
      (numerator / denominator : ℚ) < 2 ^ ((numerator.log2 : Int) - denominator.log2 + 1) := by
  have numeratorLow : (2 : ℚ) ^ (numerator.log2 : Int) ≤ numerator := by
    exact_mod_cast Nat.log2_self_le (Nat.ne_of_gt someNumerator)
  have numeratorHigh : (numerator : ℚ) < 2 ^ ((numerator.log2 : Int) + 1) := by
    exact_mod_cast Nat.lt_log2_self
  have denominatorLow : (2 : ℚ) ^ (denominator.log2 : Int) ≤ denominator := by
    exact_mod_cast Nat.log2_self_le (Nat.ne_of_gt someDenominator)
  have denominatorHigh : (denominator : ℚ) < 2 ^ ((denominator.log2 : Int) + 1) := by
    exact_mod_cast Nat.lt_log2_self
  have positive : (0 : ℚ) < denominator := by exact_mod_cast someDenominator
  constructor
  · rw [lt_div_iff₀ positive]
    calc
      (2 : ℚ) ^ ((numerator.log2 : Int) - denominator.log2 - 1) * denominator
        < 2 ^ ((numerator.log2 : Int) - denominator.log2 - 1) * 2 ^ ((denominator.log2 : Int) + 1) :=
          mul_lt_mul_of_pos_left denominatorHigh (by positivity)
      _ = 2 ^ (numerator.log2 : Int) := by
          rw [← zpow_add₀ (by norm_num)]
          congr 1
          ring
      _ ≤ numerator := numeratorLow
  · rw [div_lt_iff₀ positive]
    calc
      (numerator : ℚ) < 2 ^ ((numerator.log2 : Int) + 1) := numeratorHigh
      _ = 2 ^ ((numerator.log2 : Int) - denominator.log2 + 1) * 2 ^ (denominator.log2 : Int) := by
          rw [← zpow_add₀ (by norm_num)]
          congr 1
          ring
      _ ≤ 2 ^ ((numerator.log2 : Int) - denominator.log2 + 1) * denominator :=
          mul_le_mul_of_nonneg_left denominatorLow (by positivity)

theorem exponentOf_le (numerator denominator : Nat) : -1074 ≤ exponentOf numerator denominator := le_max_left _ _

/-- The exponent of a fraction leaves fewer than 54 bits before the point, and 53 of them unless it is the
least one. -/
theorem exponentOf_bounds (someNumerator : 0 < numerator) (someDenominator : 0 < denominator) :
    (numerator / denominator : ℚ) < 2 ^ 53 * 2 ^ exponentOf numerator denominator ∧
      (exponentOf numerator denominator = -1074 ∨
        2 ^ 52 * 2 ^ exponentOf numerator denominator ≤ (numerator / denominator : ℚ)) := by
  obtain ⟨low, high⟩ := log2_bounds someNumerator someDenominator
  unfold exponentOf
  dsimp only
  generalize isGuess : (numerator.log2 : Int) - denominator.log2 - 52 = guess
  have positive := scaleDown_positive numerator someDenominator guess
  have scaled := scaleDown_div numerator denominator guess
  have unit : (0 : ℚ) < 2 ^ guess := zpow_pos (by norm_num) guess
  have above : 2 ^ 51 * 2 ^ guess < (numerator / denominator : ℚ) := by
    have power : (numerator.log2 : Int) - denominator.log2 - 1 = 51 + guess := by omega
    rwa [power, zpow_add₀ (by norm_num)] at low
  have below : (numerator / denominator : ℚ) < 2 ^ 53 * 2 ^ guess := by
    have power : (numerator.log2 : Int) - denominator.log2 + 1 = 53 + guess := by omega
    rwa [power, zpow_add₀ (by norm_num)] at high
  generalize scaleDown numerator denominator guess = scaledPair at positive scaled ⊢
  obtain ⟨top, bottom⟩ := scaledPair
  dsimp only at positive scaled ⊢
  have bottomPositive : (0 : ℚ) < bottom := by exact_mod_cast positive
  have fits : (numerator / denominator : ℚ) < 2 ^ 53 * 2 ^ (if top < bottom * binade then guess - 1 else guess) ∧
      2 ^ 52 * 2 ^ (if top < bottom * binade then guess - 1 else guess) ≤ (numerator / denominator : ℚ) := by
    split
    · next short =>
      have few : (top : ℚ) / bottom < 2 ^ 52 := by
        rw [div_lt_iff₀ bottomPositive, mul_comm]
        exact_mod_cast short
      rw [scaled, div_lt_iff₀ unit] at few
      rw [zpow_sub_one₀ (by norm_num)]
      constructor <;> linarith
    · next long =>
      have many : (2 : ℚ) ^ 52 ≤ top / bottom := by
        rw [le_div_iff₀ bottomPositive, mul_comm]
        exact_mod_cast Nat.not_lt.mp long
      rw [scaled, le_div_iff₀ unit] at many
      exact ⟨below, many⟩
  generalize (if top < bottom * binade then guess - 1 else guess) = exponent at fits
  rcases le_total (-1074) exponent with normal | tiny
  · rw [max_eq_right normal]
    exact ⟨fits.1, .inr fits.2⟩
  · rw [max_eq_left tiny]
    refine ⟨fits.1.trans_le ?_, .inl rfl⟩
    exact mul_le_mul_of_nonneg_left (zpow_le_zpow_right₀ (by norm_num) tiny) (by norm_num)

/-- Rounding to an integer adds at most one half. -/
theorem two_mul_roundDiv_le (numerator denominator : Nat) :
    2 * (denominator * roundDiv numerator denominator) ≤ 2 * numerator + denominator := by
  have split := Nat.div_add_mod numerator denominator
  unfold roundDiv
  dsimp only
  split
  · omega
  · split
    · rw [Nat.mul_add, Nat.mul_one]
      omega
    · rcases Nat.mod_two_eq_zero_or_one (numerator / denominator) with even | odd
      · rw [even, Nat.add_zero]
        omega
      · rw [odd, Nat.mul_add, Nat.mul_one]
        omega

theorem le_roundDiv {count : Nat} (positive : 0 < denominator) (le : denominator * count ≤ numerator) :
    count ≤ roundDiv numerator denominator := by
  have quotient : count ≤ numerator / denominator := (Nat.le_div_iff_mul_le positive).mpr (by rwa [Nat.mul_comm])
  unfold roundDiv
  dsimp only
  split
  · exact quotient
  · split <;> omega

/-- The magnitude of a code that is put together from steps and a rounded mantissa. A mantissa that was
rounded up to the next power of two begins the next step. -/
theorem magnitude_add {steps rounded : Nat} (most : rounded ≤ 2 * binade) (normal : steps = 0 ∨ binade ≤ rounded) :
    magnitude (steps * binade + rounded) = rounded * 2 ^ ((steps : Int) - 1074) := by
  unfold magnitude parts
  rcases Nat.lt_or_ge rounded binade with small | large
  · obtain rfl : steps = 0 := normal.resolve_right (Nat.not_le.mpr small)
    simp [small]
  · have notTiny : ¬steps * binade + rounded < binade := by omega
    rw [if_neg notTiny]
    rcases Nat.lt_or_ge rounded (2 * binade) with inside | top
    · have code : steps * binade + rounded = (steps + 1) * binade + (rounded - binade) := by
        rw [Nat.add_mul]
        omega
      have quotient : ((steps + 1) * binade + (rounded - binade)) / binade = steps + 1 := by
        rw [Nat.mul_comm, Nat.mul_add_div (by decide), Nat.div_eq_of_lt (by omega), Nat.add_zero]
      have rest : ((steps + 1) * binade + (rounded - binade)) % binade = rounded - binade := by
        rw [Nat.mul_comm, Nat.mul_add_mod, Nat.mod_eq_of_lt (by omega)]
      have mantissa : binade + (rounded - binade) = rounded := by omega
      have exponent : ((steps + 1 : Nat) : Int) - 1075 = (steps : Int) - 1074 := by omega
      rw [code, quotient, rest, mantissa, exponent]
    · obtain rfl : rounded = 2 * binade := Nat.le_antisymm most top
      have quotient : (steps * binade + 2 * binade) / binade = steps + 2 := by
        rw [← Nat.add_mul, Nat.mul_div_cancel _ (by decide)]
      have rest : (steps * binade + 2 * binade) % binade = 0 := by
        rw [← Nat.add_mul, Nat.mul_mod_left]
      have exponent : ((steps + 2 : Nat) : Int) - 1075 = (steps : Int) - 1074 + 1 := by omega
      rw [quotient, rest, exponent, zpow_add_one₀ (by norm_num), Nat.add_zero]
      push_cast
      ring

/-- The mantissa of a fraction before it is put into a code. -/
def mantissaOf (numerator denominator : Nat) : Nat :=
  let scaled := scaleDown numerator denominator (exponentOf numerator denominator)
  roundDiv scaled.1 scaled.2

theorem codeOfRatio_eq (nonzero : numerator ≠ 0) :
    codeOfRatio numerator denominator =
      (exponentOf numerator denominator + 1074).toNat * binade + mantissaOf numerator denominator := by
  rw [codeOfRatio, if_neg nonzero]
  rfl

/-- Rounding a mantissa adds at most one half of its unit. -/
theorem mantissaOf_le (numerator : Nat) (someDenominator : 0 < denominator) :
    (mantissaOf numerator denominator : ℚ) ≤
      numerator / denominator / 2 ^ exponentOf numerator denominator + 1 / 2 := by
  have positive := scaleDown_positive numerator someDenominator (exponentOf numerator denominator)
  rw [← scaleDown_div, mantissaOf]
  generalize scaleDown numerator denominator (exponentOf numerator denominator) = scaled at positive ⊢
  have bottomPositive : (0 : ℚ) < scaled.2 := by exact_mod_cast positive
  have close : (2 * (scaled.2 * roundDiv scaled.1 scaled.2) : ℚ) ≤ 2 * scaled.1 + scaled.2 := by
    exact_mod_cast two_mul_roundDiv_le scaled.1 scaled.2
  rw [div_add_div _ _ (ne_of_gt bottomPositive) (by norm_num), le_div_iff₀ (by positivity)]
  linarith

section Rounded

variable (someNumerator : 0 < numerator) (someDenominator : 0 < denominator)
include someNumerator someDenominator

theorem mantissaOf_bounds :
    mantissaOf numerator denominator ≤ 2 * binade ∧
      (exponentOf numerator denominator = -1074 ∨ binade ≤ mantissaOf numerator denominator) := by
  obtain ⟨high, low⟩ := exponentOf_bounds someNumerator someDenominator
  have close := mantissaOf_le numerator someDenominator
  have unit : (0 : ℚ) < 2 ^ exponentOf numerator denominator := zpow_pos (by norm_num) _
  constructor
  · rw [← div_lt_iff₀ unit] at high
    have bound : (mantissaOf numerator denominator : ℚ) < 9007199254740993 := by
      norm_num at high
      linarith
    exact Nat.lt_succ_iff.mp (by exact_mod_cast bound)
  · refine low.imp_right fun normal => ?_
    have positive := scaleDown_positive numerator someDenominator (exponentOf numerator denominator)
    have scaled := scaleDown_div numerator denominator (exponentOf numerator denominator)
    rw [← le_div_iff₀ unit, ← scaled, le_div_iff₀ (by exact_mod_cast positive), mul_comm] at normal
    exact le_roundDiv positive (by exact_mod_cast normal)

/-- The magnitude that a fraction is rounded to. -/
theorem magnitude_codeOfRatio :
    magnitude (codeOfRatio numerator denominator) =
      mantissaOf numerator denominator * 2 ^ exponentOf numerator denominator := by
  obtain ⟨most, normal⟩ := mantissaOf_bounds someNumerator someDenominator
  have least := exponentOf_le numerator denominator
  have steps : (((exponentOf numerator denominator + 1074).toNat : Nat) : Int) - 1074 =
      exponentOf numerator denominator := by omega
  rw [codeOfRatio_eq (Nat.ne_of_gt someNumerator), magnitude_add most (normal.imp_left fun tiny => by omega), steps]

/-- A fraction that is not tiny is rounded by at most one part of two to the 53rd. -/
theorem magnitude_codeOfRatio_le (normal : (1 : ℚ) ≤ numerator / denominator) :
    magnitude (codeOfRatio numerator denominator) ≤ numerator / denominator * (1 + 1 / 2 ^ 53) := by
  obtain ⟨_, low⟩ := exponentOf_bounds someNumerator someDenominator
  have close := mantissaOf_le numerator someDenominator
  have unit : (0 : ℚ) < 2 ^ exponentOf numerator denominator := zpow_pos (by norm_num) _
  have large : 2 ^ 52 * 2 ^ exponentOf numerator denominator ≤ (numerator / denominator : ℚ) := by
    rcases low with tiny | normal'
    · have product : (2 : ℚ) ^ 52 * 2 ^ (-1074 : Int) = 2 ^ (-1022 : Int) := by
        rw [← zpow_natCast, ← zpow_add₀ (by norm_num)]
        norm_num
      rw [tiny, product]
      exact (zpow_le_one_of_nonpos₀ (by norm_num) (by norm_num)).trans normal
    · exact normal'
  rw [magnitude_codeOfRatio someNumerator someDenominator]
  calc
    (mantissaOf numerator denominator : ℚ) * 2 ^ exponentOf numerator denominator
      ≤ (numerator / denominator / 2 ^ exponentOf numerator denominator + 1 / 2) *
          2 ^ exponentOf numerator denominator := mul_le_mul_of_nonneg_right close unit.le
    _ = numerator / denominator + 2 ^ exponentOf numerator denominator / 2 := by
        rw [add_mul, div_mul_cancel₀ _ unit.ne']
        ring
    _ ≤ numerator / denominator * (1 + 1 / 2 ^ 53) := by
        norm_num at large ⊢
        linarith

theorem one_le_magnitude (normal : (1 : ℚ) ≤ numerator / denominator) :
    1 ≤ magnitude (codeOfRatio numerator denominator) := by
  obtain ⟨high, _⟩ := exponentOf_bounds someNumerator someDenominator
  obtain ⟨_, large⟩ := mantissaOf_bounds someNumerator someDenominator
  have exponent : -52 ≤ exponentOf numerator denominator := by
    have power : (2 : ℚ) ^ (0 : Int) < 2 ^ (53 + exponentOf numerator denominator) := by
      rw [zpow_add₀ (by norm_num), zpow_zero]
      exact normal.trans_lt high
    have positive := (zpow_lt_zpow_iff_right₀ (by norm_num)).mp power
    omega
  have mantissa : ((binade : Nat) : ℚ) ≤ mantissaOf numerator denominator := by
    have large' := large.resolve_left (by omega)
    exact_mod_cast large'
  rw [magnitude_codeOfRatio someNumerator someDenominator]
  calc
    (1 : ℚ) = (binade : Nat) * 2 ^ (-52 : Int) := by norm_num
    _ ≤ mantissaOf numerator denominator * 2 ^ exponentOf numerator denominator :=
        mul_le_mul mantissa (zpow_le_zpow_right₀ (by norm_num) exponent) (by positivity) (by positivity)

/-- Fractions below the limit do not overflow. -/
theorem codeOfRatio_lt (below : (numerator / denominator : ℚ) < limit) :
    codeOfRatio numerator denominator < 2047 * binade := by
  rw [limit] at below
  obtain ⟨most, _⟩ := mantissaOf_bounds someNumerator someDenominator
  obtain ⟨_, low⟩ := exponentOf_bounds someNumerator someDenominator
  have close := mantissaOf_le numerator someDenominator
  have least := exponentOf_le numerator denominator
  have unit : (0 : ℚ) < 2 ^ (970 : Int) := zpow_pos (by norm_num) _
  rw [codeOfRatio_eq (Nat.ne_of_gt someNumerator)]
  rcases lt_trichotomy (exponentOf numerator denominator) 971 with small | last | large
  · have steps : (exponentOf numerator denominator + 1074).toNat ≤ 2044 := by omega
    have product := Nat.mul_le_mul_right binade steps
    have positive : 0 < binade := by decide
    omega
  · have step : (2 : ℚ) ^ (971 : Int) = 2 ^ (970 : Int) * 2 := zpow_add_one₀ (by norm_num) 970
    rw [last, step, ← div_div] at close
    rw [← div_lt_iff₀ unit] at below
    have bound : (mantissaOf numerator denominator : ℚ) < 9007199254740992 := by
      generalize (numerator / denominator : ℚ) / 2 ^ (970 : Int) = quotient at below close
      norm_num at below
      linarith
    have inside : mantissaOf numerator denominator < 2 * binade := Nat.cast_lt.mp bound
    have steps : (exponentOf numerator denominator + 1074).toNat = 2045 := by omega
    rw [steps]
    omega
  · have normal := low.resolve_left (by omega)
    have power : (2 : ℚ) ^ (972 : Int) ≤ 2 ^ exponentOf numerator denominator :=
      zpow_le_zpow_right₀ (by norm_num) large
    have step : (2 : ℚ) ^ (972 : Int) = 2 ^ (970 : Int) * 4 := by
      rw [show (972 : Int) = 970 + 2 from rfl, zpow_add₀ (by norm_num)]
      norm_num
    rw [step] at power
    generalize (2 : ℚ) ^ (970 : Int) = step970 at below unit power
    norm_num at below normal
    linarith

end Rounded

end Fractions

section Operations

theorem magnitude_nonneg (code : Nat) : 0 ≤ magnitude code :=
  mul_nonneg (Nat.cast_nonneg _) (zpow_nonneg (by norm_num) _)

theorem magnitude_zero : magnitude 0 = 0 := by
  simp [magnitude, parts]

/-- Finite magnitudes stay below the limit. -/
theorem magnitude_lt_limit (x : Binary64) : magnitude x.code < limit := by
  rcases Nat.eq_zero_or_pos x.code with zero | positive
  · rw [zero, magnitude_zero]
    norm_num [limit]
  · obtain ⟨_, mantissa, _, exponent⟩ := Decimal.parts_bounds positive x.finite
    have bound : ((parts x.code).1 : ℚ) ≤ 9007199254740991 := by exact_mod_cast Nat.le_of_lt_succ mantissa
    have step : (2 : ℚ) ^ (971 : Int) = 2 ^ (970 : Int) * 2 := zpow_add_one₀ (by norm_num) 970
    have unit : (0 : ℚ) < 2 ^ (970 : Int) := zpow_pos (by norm_num) _
    calc
      magnitude x.code ≤ 9007199254740991 * 2 ^ (971 : Int) :=
        mul_le_mul bound (zpow_le_zpow_right₀ (by norm_num) exponent) (zpow_nonneg (by norm_num) _) (by norm_num)
      _ < limit := by
        rw [limit, step]
        generalize (2 : ℚ) ^ (970 : Int) = step970 at unit
        norm_num
        linarith

theorem ratio_div (x : Binary64) : (x.ratio.1 : ℚ) / x.ratio.2 = magnitude x.code := by
  rw [ratio, magnitude]
  obtain ⟨size, same | same⟩ := (parts x.code).2.eq_nat_or_neg
  · simp [same]
  · simp [same, div_eq_mul_inv]

theorem ratio_positive (x : Binary64) : 0 < x.ratio.2 := Nat.pow_pos (by decide)

theorem isSome_ofRatio? {negative : Bool} {numerator denominator : Nat} (positive : 0 < denominator)
    (below : (numerator / denominator : ℚ) < limit) : (ofRatio? negative numerator denominator).isSome := by
  have finite : codeOfRatio numerator denominator < 2047 * binade := by
    rcases Nat.eq_zero_or_pos numerator with rfl | someNumerator
    · rw [codeOfRatio, if_pos rfl]
      decide
    · exact codeOfRatio_lt someNumerator positive below
  simp [ofRatio?, finite]

theorem code_of_ofRatio? {negative : Bool} {numerator denominator : Nat} {x : Binary64}
    (found : ofRatio? negative numerator denominator = some x) : x.code = codeOfRatio numerator denominator := by
  unfold ofRatio? at found
  dsimp only at found
  split at found
  · cases found
    rfl
  · cases found

theorem isSome_mul? {x y : Binary64} (below : magnitude x.code * magnitude y.code < limit) : (x.mul? y).isSome := by
  have whole : x.mul? y =
      ofRatio? (x.negative != y.negative) (x.ratio.1 * y.ratio.1) (x.ratio.2 * y.ratio.2) := rfl
  rw [← ratio_div, ← ratio_div, div_mul_div_comm, ← Nat.cast_mul, ← Nat.cast_mul] at below
  rw [whole]
  exact isSome_ofRatio? (Nat.mul_pos x.ratio_positive y.ratio_positive) below

/-- Dividing by a magnitude of at least one does not overflow. -/
theorem isSome_div? {x y : Binary64} (large : 1 ≤ magnitude y.code) : (x.div? y).isSome := by
  have quotient : magnitude x.code / magnitude y.code < limit :=
    (div_le_self (magnitude_nonneg _) large).trans_lt x.magnitude_lt_limit
  have positive : 0 < y.ratio.1 := by
    rw [Nat.pos_iff_ne_zero]
    intro zero
    rw [← ratio_div, zero] at large
    norm_num at large
  have whole : x.div? y =
      ofRatio? (x.negative != y.negative) (x.ratio.1 * y.ratio.2) (x.ratio.2 * y.ratio.1) := rfl
  rw [← ratio_div, ← ratio_div, div_div_div_eq, ← Nat.cast_mul, ← Nat.cast_mul] at quotient
  rw [whole]
  exact isSome_ofRatio? (Nat.mul_pos x.ratio_positive positive) quotient

/-- A natural number is rounded by at most one part of two to the 53rd. -/
theorem magnitude_ofNat? {value : Nat} {x : Binary64} (found : ofNat? value = some x) :
    magnitude x.code ≤ value * (1 + 1 / 2 ^ 53) := by
  rw [code_of_ofRatio? found]
  rcases Nat.eq_zero_or_pos value with rfl | positive
  · simp [codeOfRatio, magnitude_zero]
  · have normal : (1 : ℚ) ≤ value / (1 : Nat) := by
      rw [Nat.cast_one, div_one]
      exact_mod_cast positive
    have close := magnitude_codeOfRatio_le positive Nat.one_pos normal
    rwa [Nat.cast_one, div_one] at close

theorem one_le_magnitude_ofNat? {value : Nat} {x : Binary64} (found : ofNat? value = some x) (positive : 0 < value) :
    1 ≤ magnitude x.code := by
  rw [code_of_ofRatio? found]
  refine one_le_magnitude positive Nat.one_pos ?_
  rw [Nat.cast_one, div_one]
  exact_mod_cast positive

theorem exists_ofNat? {value : Nat} (below : (value : ℚ) < limit) : ∃ x, ofNat? value = some x :=
  Option.isSome_iff_exists.mp (isSome_ofRatio? Nat.one_pos (by rwa [Nat.cast_one, div_one]))

theorem limit_eq : limit = ((2 ^ 54 - 1) * 2 ^ 970 : Nat) := by
  rw [limit, Nat.cast_mul, Nat.cast_pow, ← zpow_natCast]
  norm_num

theorem lt_limit {value bound : Nat} (below : value < bound) (fits : bound ≤ (2 ^ 54 - 1) * 2 ^ 970) :
    (value : ℚ) < limit := by
  rw [limit_eq, Nat.cast_lt]
  exact Nat.lt_of_lt_of_le below fits

theorem exists_powerOfTen? {power : Nat} (most : power ≤ 308) : ∃ x, powerOfTen? power = some x := by
  have smaller : ∀ top, power ≤ top → 10 ^ power < 10 ^ top + 1 := fun top le =>
    Nat.lt_succ_of_le (Nat.pow_le_pow_right (by decide) le)
  exact exists_ofNat? (lt_limit (smaller 308 most) (by decide +kernel))

theorem magnitude_powerOfTen? {power : Nat} {x : Binary64} (found : powerOfTen? power = some x) :
    1 ≤ magnitude x.code ∧ magnitude x.code ≤ 10 ^ power * (1 + 1 / 2 ^ 53) := by
  have close := magnitude_ofNat? found
  rw [Nat.pow_eq, Nat.cast_pow] at close
  exact ⟨one_le_magnitude_ofNat? found (Nat.pow_pos (by decide)), close⟩

end Operations

end Binary64

namespace Decimal

theorem zpow_mul_pow (base : ℚ) (nonzero : base ≠ 0) (exponent : Int) :
    base ^ exponent * base ^ (-exponent).toNat = base ^ exponent.toNat := by
  rw [← zpow_natCast, ← zpow_natCast, ← zpow_add₀ nonzero]
  congr 1
  omega

/-- The shortest decimal of a magnitude lies at most half a unit above it. -/
theorem shortest_le (code : Nat) :
    ((shortest code).1 : ℚ) * 10 ^ (shortest code).2 ≤
      (4 * (Binary64.parts code).1 + 2) * 2 ^ ((Binary64.parts code).2 - 2) := by
  have inside : (interval code).middle ≤ (interval code).high := Nat.mul_le_mul_right _ (Nat.le_add_right _ _)
  have bound := search_le_high inside 20
    (((Binary64.parts code).1.log2 + 1 + (Binary64.parts code).2) * 30103 / 100000 + 1)
  rw [shortest]
  dsimp only
  generalize search (interval code) 20 _ = found at bound ⊢
  obtain ⟨digits, power⟩ := found
  have cross : (digits * (2 ^ (-((Binary64.parts code).2 - 2)).toNat * 10 ^ power.toNat) : ℚ) ≤
      (4 * (Binary64.parts code).1 + 2) * 2 ^ ((Binary64.parts code).2 - 2).toNat * 10 ^ (-power).toNat := by
    rw [Int.neg_sub]
    exact_mod_cast bound
  have two := zpow_mul_pow 2 (by norm_num) ((Binary64.parts code).2 - 2)
  have ten := zpow_mul_pow 10 (by norm_num) power
  refine le_of_mul_le_mul_right ?_ (show (0 : ℚ) < 2 ^ (-((Binary64.parts code).2 - 2)).toNat * 10 ^ (-power).toNat by
    positivity)
  rw [← two, ← ten] at cross
  linarith

end Decimal

end WorkflowSynthesis
