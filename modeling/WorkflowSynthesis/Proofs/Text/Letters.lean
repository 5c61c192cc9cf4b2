import WorkflowSynthesis.Text.Case
import WorkflowSynthesis.Text.CaseFolding

/-!
Small ASCII letters. They are their own lower case. Without regard to case, each stands for itself, for its
capital, and for at most one character beyond ASCII: the table of case folding is cut down to the three shifts
that say so, since a search of all of it takes long.
-/

namespace WorkflowSynthesis

namespace Text

/-- The code points of the small ASCII letters. -/
def smallLetters : List Nat := List.range' 0x61 26

section Lowercase

theorem shifted_small : ∀ letter ∈ smallLetters, shifted lowerShifts letter = letter := by
  decide

theorem lowerChar_small {letter : Char} (small : letter.toNat ∈ smallLetters) : lowerChar letter = [letter] := by
  have ascii : letter.toNat ≠ 0x130 := by
    intro dotted
    rw [dotted] at small
    exact absurd small (by decide)
  rw [lowerChar, if_neg ascii, shifted_small _ small, Char.ofNat_toNat]

theorem lowerAfter_small {chars : List Char} (small : ∀ c ∈ chars, c.toNat ∈ smallLetters) (before : List Char) :
    lowerAfter before chars = chars := by
  induction chars generalizing before with
  | nil => rfl
  | cons c chars ih =>
    rw [List.forall_mem_cons] at small
    have plain : c ≠ 'Σ' := by
      rintro rfl
      exact absurd small.1 (by decide)
    simp only [lowerAfter, if_neg plain, lowerChar_small small.1, ih small.2]
    rfl

/-- A text of small letters is its own lower case. -/
theorem lowercase_small {text : String} (small : ∀ c ∈ text.toList, c.toNat ∈ smallLetters) : lowercase text = text := by
  rw [lowercase, lowerAfter_small small, String.ofList_toList]

end Lowercase

section Folding

/-- The shifts with an ASCII character on one side: those of the capitals, the long s and the kelvin sign. -/
def asciiShifts : List Shift := [⟨⟨0x41, 0x5A, 1⟩, 32⟩, ⟨⟨0x17F, 0x17F, 1⟩, -268⟩, ⟨⟨0x212A, 0x212A, 1⟩, -8383⟩]

theorem filter_foldShifts :
    foldShifts.filter (fun shift => decide (shift.first < 0x80 ∨ (shift.first : Int) + shift.offset < 0x80)) =
      asciiShifts := by
  simp [foldShifts, asciiShifts]

theorem Run.within_eq_nil {run : Run} {low high : Nat} (below : high < run.first) : run.within low high = [] := by
  have last : min run.last high < max run.first low :=
    Nat.lt_of_le_of_lt (Nat.min_le_right _ _) (Nat.lt_of_lt_of_le below (Nat.le_max_left _ _))
  rw [within, if_pos last]

/-- To ASCII ranges no other shifts matter. -/
theorem flatMap_foldShifts {move : Shift → Nat × Nat → List (Nat × Nat)}
    (far : ∀ {shift : Shift} {range : Nat × Nat}, range.2 < 0x80 → 0x80 ≤ shift.first →
      (0x80 : Int) ≤ shift.first + shift.offset → move shift range = [])
    {ranges : List (Nat × Nat)} (ascii : ∀ range ∈ ranges, range.2 < 0x80) :
    (foldShifts.flatMap fun shift => ranges.flatMap (move shift)) =
      asciiShifts.flatMap fun shift => ranges.flatMap (move shift) := by
  rw [← filter_foldShifts]
  generalize foldShifts = shifts
  induction shifts with
  | nil => rfl
  | cons shift shifts ih =>
    rw [List.flatMap_cons, ih, List.filter_cons]
    split
    · rw [List.flatMap_cons]
    · next beyond =>
      rw [decide_eq_true_iff, not_or, Nat.not_lt, Int.not_lt] at beyond
      have nothing : ranges.flatMap (move shift) = [] :=
        List.flatMap_eq_nil_iff.mpr fun range member => far (ascii range member) beyond.1 beyond.2
      rw [nothing, List.nil_append]

/-- The code points of ASCII ranges together with their folds. -/
def asciiFolds (ranges : List (Nat × Nat)) : List (Nat × Nat) :=
  unionOf (ranges ++ asciiShifts.flatMap fun shift => ranges.flatMap fun (low, high) => shift.images low high)

theorem foldClosure_of_ascii {ranges : List (Nat × Nat)} (ascii : ∀ range ∈ ranges, range.2 < 0x80)
    (folded : ∀ range ∈ asciiFolds ranges, range.2 < 0x80) :
    foldClosure ranges = unionOf (asciiFolds ranges ++ asciiShifts.flatMap fun shift =>
      (asciiFolds ranges).flatMap fun (low, high) => shift.origins low high) := by
  have images : unionOf (ranges ++ foldShifts.flatMap fun shift => ranges.flatMap fun (low, high) =>
      shift.images low high) = asciiFolds ranges := by
    rw [flatMap_foldShifts _ ascii, asciiFolds]
    rintro shift ⟨low, high⟩ small beyond -
    change shift.images low high = []
    rw [Shift.images, Run.within_eq_nil (Nat.lt_of_lt_of_le small beyond), List.map_nil]
  simp only [foldClosure]
  rw [images, flatMap_foldShifts _ folded]
  intro shift range small beyond far
  exact Run.within_eq_nil (by omega)

/-- The code points that equal the one of a small letter without regard to case. -/
def letterForms (letter : Nat) : List (Nat × Nat) :=
  [(letter - 32, letter - 32), (letter, letter)] ++
    if letter = 0x73 then [(0x17F, 0x17F)] else if letter = 0x6B then [(0x212A, 0x212A)] else []

theorem foldClosure_letter :
    ∀ letter ∈ smallLetters, foldClosure [(letter, letter)] = letterForms letter := by
  intro letter member
  have ascii : ∀ letter ∈ smallLetters, (∀ range ∈ [(letter, letter)], range.2 < 0x80) ∧
      ∀ range ∈ asciiFolds [(letter, letter)], range.2 < 0x80 := by
    decide +kernel
  rw [foldClosure_of_ascii (ascii letter member).1 (ascii letter member).2]
  revert letter
  decide +kernel

end Folding

end Text

end WorkflowSynthesis
