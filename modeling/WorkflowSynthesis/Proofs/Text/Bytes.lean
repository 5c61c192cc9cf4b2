import Mathlib.Data.List.Lex
import Mathlib.Tactic.SplitIfs

/-!
Texts compared byte by byte. The encodings of two characters part at a byte that is smaller for the smaller
character, whatever follows them, so the order of the encodings is the order of the texts.
-/

namespace WorkflowSynthesis.Text

/-- The bytes of a text in its encoding. -/
def bytes (text : String) : List UInt8 := text.toUTF8.data.toList

theorem bytes_eq_flatMap (text : String) : bytes text = text.toList.flatMap String.utf8EncodeChar := by
  rw [bytes, String.toUTF8_eq_toByteArray, ← String.utf8Encode_toList, List.utf8Encode]
  simp

theorem ofNat_lt_ofNat {first second : Nat} (small : first < 256) (bounded : second < 256) :
    UInt8.ofNat first < UInt8.ofNat second ↔ first < second :=
  UInt8.ofNat_lt_iff_lt small bounded

theorem ofNat_eq_ofNat {first second : Nat} (small : first < 256) (bounded : second < 256) :
    UInt8.ofNat first = UInt8.ofNat second ↔ first = second := by
  rw [← UInt8.toNat_inj, UInt8.toNat_ofNat_of_lt' small, UInt8.toNat_ofNat_of_lt' bounded]

/-- The smaller of two characters has the smaller encoding, and neither encoding continues the other. -/
theorem encode_lt_encode {first second : Char} (less : first < second) (left right : List UInt8) :
    String.utf8EncodeChar first ++ left < String.utf8EncodeChar second ++ right := by
  have scalars : first.val.toNat < second.val.toNat := less
  have limit : second.val.toNat < 0x110000 := by
    have valid := second.valid
    simp only [UInt32.isValidChar, Nat.isValidChar] at valid
    omega
  unfold String.utf8EncodeChar
  dsimp only
  generalize first.val.toNat = low at *
  generalize second.val.toNat = high at *
  -- Every byte holds six bits, so the bytes are digits to the base 64.
  have lowDigits : low / 64 / 64 = low / 4096 ∧ low / 4096 / 64 = low / 262144 ∧ low / 262144 / 8 = 0 := by omega
  have highDigits : high / 64 / 64 = high / 4096 ∧ high / 4096 / 64 = high / 262144 ∧ high / 262144 / 8 = 0 := by
    omega
  split_ifs <;>
    simp (disch := omega) only [List.cons_append, List.nil_append, List.cons_lt_cons_iff, ofNat_lt_ofNat,
      ofNat_eq_ofNat] <;> omega

theorem flatMap_encode_lt {left right : List Char} (less : left < right) :
    left.flatMap String.utf8EncodeChar < right.flatMap String.utf8EncodeChar := by
  induction less with
  | @nil char rest =>
    rw [List.flatMap_nil, List.flatMap_cons]
    cases encoded : String.utf8EncodeChar char with
    | nil => exact absurd encoded (by simp)
    | cons byte later => exact .nil
  | rel less =>
    rw [List.flatMap_cons, List.flatMap_cons]
    exact encode_lt_encode less _ _
  | cons _ ih =>
    rw [List.flatMap_cons, List.flatMap_cons]
    exact List.append_left_lt ih

/-- Texts are in the order of their bytes. -/
theorem bytes_lt_bytes {left right : String} : bytes left < bytes right ↔ left < right := by
  have increasing : ∀ {first second : String}, first < second → bytes first < bytes second := by
    intro first second less
    rw [bytes_eq_flatMap, bytes_eq_flatMap]
    exact flatMap_encode_lt (String.lt_iff.mp less)
  constructor
  · intro less
    by_contra notLess
    by_cases same : left = right
    · subst same
      exact List.lt_irrefl _ less
    · have greater : right < left := by
        refine Decidable.byContradiction fun notGreater => same ?_
        exact String.le_antisymm (String.not_lt.mp notGreater) (String.not_lt.mp notLess)
      exact List.lt_irrefl _ (List.lt_trans less (increasing greater))
  · exact increasing

end WorkflowSynthesis.Text
