import Mathlib.Algebra.Order.Ring.Nat
import WorkflowSynthesis.Decimal.Shortest

/-!
The digits of the shortest decimal. They are a positive number wherever zeros are written after them, and
the decimal does not lie above the interval of its magnitude.
-/

namespace WorkflowSynthesis.Decimal

/-- A thousand is less than two to the tenth. -/
theorem pow_ten_le_pow_two (power : Nat) : 10 ^ power ≤ 2 ^ (10 * (power / 3 + 1)) := by
  have below : power ≤ 3 * (power / 3 + 1) := by omega
  calc
    10 ^ power ≤ 10 ^ (3 * (power / 3 + 1)) := Nat.pow_le_pow_right (by decide) below
    _ = 1000 ^ (power / 3 + 1) := by rw [Nat.pow_mul]
    _ ≤ 1024 ^ (power / 3 + 1) := Nat.pow_le_pow_left (by decide) _
    _ = 2 ^ (10 * (power / 3 + 1)) := by rw [Nat.pow_mul]

theorem positive_of_nearest? {range : Interval} {digits : Nat} (found : range.nearest? = some digits) : 0 < digits := by
  unfold Interval.nearest? at found
  dsimp only at found
  split at found
  · cases found
  · next positive _ =>
    cases found
    rw [Bool.and_eq_true, decide_eq_true_eq] at positive
    exact positive.1
  · cases found
    exact Nat.succ_pos _
  · next positive _ =>
    rw [Bool.and_eq_true, decide_eq_true_eq] at positive
    cases found
    split
    · exact positive.1
    · exact Nat.succ_pos _

/-- A search ends with a hit or with what is left at the smallest power. -/
theorem search_cases (range : Interval) (attempts : Nat) (power : Int) :
    0 < (search range attempts power).1 ∨
      search range attempts power =
        ((range.inUnits (power - attempts)).middle / (range.inUnits (power - attempts)).denominator,
          power - attempts) := by
  induction attempts generalizing power with
  | zero => simp [search]
  | succ attempts ih =>
    unfold search
    split
    · next digits found => exact .inl (positive_of_nearest? found)
    · have further := ih (power - 1)
      have same : power - 1 - (attempts : Int) = power - ((attempts + 1 : Nat) : Int) := by omega
      rwa [same] at further

theorem le_high_of_nearest? {range : Interval} {digits : Nat} (found : range.nearest? = some digits) :
    digits * range.denominator ≤ range.high := by
  have holds_le : ∀ value, range.holds value = true → value * range.denominator ≤ range.high := by
    intro value held
    unfold Interval.holds at held
    dsimp only at held
    split at held
    · exact of_decide_eq_true (Bool.and_eq_true _ _ ▸ held).2
    · exact Nat.le_of_lt (of_decide_eq_true (Bool.and_eq_true _ _ ▸ held).2)
  unfold Interval.nearest? at found
  dsimp only at found
  split at found
  · cases found
  · next below _ =>
    cases found
    exact holds_le _ (Bool.and_eq_true _ _ ▸ below).2
  · next _ above =>
    cases found
    exact holds_le _ above
  · next below above =>
    cases found
    split
    · exact holds_le _ (Bool.and_eq_true _ _ ▸ below).2
    · exact holds_le _ above

/-- What a search ends with does not lie above the interval. -/
theorem search_le_high {range : Interval} (inside : range.middle ≤ range.high) (attempts : Nat) (power : Int) :
    (search range attempts power).1 * (range.inUnits (search range attempts power).2).denominator ≤
      (range.inUnits (search range attempts power).2).high := by
  induction attempts generalizing power with
  | zero =>
    rw [search]
    exact (Nat.div_mul_le_self _ _).trans (Nat.mul_le_mul_right _ inside)
  | succ attempts ih =>
    unfold search
    split
    · next digits found => exact le_high_of_nearest? found
    · exact ih (power - 1)

/-- Mantissa and exponent of a positive finite magnitude. -/
theorem parts_bounds {code : Nat} (positive : 0 < code) (finite : code < 2047 * Binary64.binade) :
    0 < (Binary64.parts code).1 ∧ (Binary64.parts code).1 < 2 * Binary64.binade ∧
      -1074 ≤ (Binary64.parts code).2 ∧ (Binary64.parts code).2 ≤ 971 := by
  unfold Binary64.parts
  have below : code / Binary64.binade < 2047 := Nat.div_lt_of_lt_mul (by omega)
  have rest : code % Binary64.binade < Binary64.binade := Nat.mod_lt _ (by decide)
  split
  · next small => exact ⟨positive, by omega, by omega, by omega⟩
  · next large =>
    have above : 1 ≤ code / Binary64.binade := (Nat.one_le_div_iff (by decide)).mpr (by omega)
    dsimp only
    omega

/-- A magnitude reaches every power of ten that is well below its power of two. -/
theorem pow_ten_mul_le {mantissa power : Nat} {exponent : Int} (positive : 0 < mantissa)
    (bits : 10 * (power / 3 + 1) ≤ (mantissa.log2 : Int) + exponent) :
    Nat.pow 2 (2 - exponent).toNat * 10 ^ power ≤ 4 * mantissa * Nat.pow 2 (exponent - 2).toNat := by
  calc
    2 ^ (2 - exponent).toNat * 10 ^ power
      ≤ 2 ^ (2 - exponent).toNat * 2 ^ (10 * (power / 3 + 1)) := Nat.mul_le_mul_left _ (pow_ten_le_pow_two power)
    _ = 2 ^ ((2 - exponent).toNat + 10 * (power / 3 + 1)) := by rw [Nat.pow_add]
    _ ≤ 2 ^ (2 + mantissa.log2 + (exponent - 2).toNat) := Nat.pow_le_pow_right (by decide) (by omega)
    _ = 4 * 2 ^ mantissa.log2 * 2 ^ (exponent - 2).toNat := by rw [Nat.pow_add, Nat.pow_add]
    _ ≤ 4 * mantissa * 2 ^ (exponent - 2).toNat :=
      Nat.mul_le_mul_right _ (Nat.mul_le_mul_left _ (Nat.log2_self_le (Nat.ne_of_gt positive)))

/-- The digits of a shortest decimal before a positive power of ten are positive. -/
theorem positive_shortest {code : Nat} (positive : 0 < code) (finite : code < 2047 * Binary64.binade)
    (zeros : 0 < (shortest code).2) : 0 < (shortest code).1 := by
  obtain ⟨mantissaPositive, mantissaBound, _, exponentBound⟩ := parts_bounds positive finite
  have logBound : (Binary64.parts code).1.log2 < 53 :=
    (Nat.log2_lt (Nat.ne_of_gt mantissaPositive)).mpr mantissaBound
  unfold shortest at zeros ⊢
  rcases search_cases (interval code) 20
    (((Binary64.parts code).1.log2 + 1 + (Binary64.parts code).2) * 30103 / 100000 + 1) with hit | last
  · exact hit
  · dsimp only at zeros ⊢
    rw [last] at zeros ⊢
    dsimp only at zeros ⊢
    obtain ⟨power, isPower⟩ := Int.eq_ofNat_of_zero_le (Int.le_of_lt zeros)
    rw [isPower] at zeros ⊢
    refine Nat.div_pos ?_ ?_
    · simp only [Interval.inUnits, interval]
      have bits : 10 * ((power : Int) / 3 + 1) ≤ (Binary64.parts code).1.log2 + (Binary64.parts code).2 := by omega
      simpa using pow_ten_mul_le mantissaPositive bits
    · simp only [Interval.inUnits, interval]
      exact Nat.mul_pos (Nat.pow_pos (by decide)) (Nat.pow_pos (by decide))

end WorkflowSynthesis.Decimal
