import WorkflowSynthesis.Pattern.Reader
import WorkflowSynthesis.Proofs.Text.Letters

/-!
Patterns that list words: small letters, and bars between the words. Such a text is read letter by letter, and
is refused only for its size.
-/

namespace WorkflowSynthesis

namespace Pattern

/-- The characters of a pattern that lists words. -/
def IsPlain (c : Char) : Prop := c = '|' ∨ c.toNat ∈ Text.smallLetters

instance (c : Char) : Decidable (IsPlain c) := inferInstanceAs (Decidable (_ ∨ _))

/-- What a letter matches without regard to case. -/
def formsOf (letter : Char) : CharSet := ⟨Text.letterForms letter.toNat⟩

theorem charSet_literal {letter : Char} (lower : letter.toNat ∈ Text.smallLetters) :
    (PatternItem.literal letter).charSet true = formsOf letter := by
  have single : Text.scalars letter.toNat letter.toNat = [(letter.toNat, letter.toNat)] := by
    rw [Text.smallLetters, List.mem_range'_1] at lower
    have surrogates : ¬max letter.toNat 0xE000 ≤ letter.toNat := by omega
    have within : min letter.toNat 0xD7FF = letter.toNat := by omega
    simp [Text.scalars, surrogates, within]
  simp only [PatternItem.literal, SetNotation.char, SetNotation.charSet, CharSet.range, CharSet.folded, formsOf, if_pos,
    single, Text.foldClosure_letter _ lower]

/-- The item that a character is read as. -/
def plainItem (c : Char) : PatternItem := if c = '|' then .bar else .one (PatternItem.literal c) 0

theorem next?_plain {c : Char} (plain : IsPlain c) (rest : List Char) :
    PatternItem.next? c rest = some (plainItem c, rest) := by
  rcases plain with rfl | letter
  · rfl
  · have other : ∀ mark : Char, mark.toNat ∉ Text.smallLetters → c ≠ mark :=
      fun mark outside same => outside (same ▸ letter)
    rw [plainItem, if_neg (other '|' (by decide)), PatternItem.next?]
    repeat rw [if_neg (other _ (by decide))]

theorem scan?_plain {chars : List Char} (plain : ∀ c ∈ chars, IsPlain c) :
    ∀ fuel, chars.length ≤ fuel → PatternItem.scan? fuel chars = some (chars.map plainItem) := by
  induction chars with
  | nil => intro fuel _; cases fuel <;> rfl
  | cons c chars ih =>
    intro fuel enough
    rw [List.forall_mem_cons] at plain
    cases fuel with
    | zero => exact absurd enough (Nat.not_succ_le_zero _)
    | succ fuel => simp [PatternItem.scan?, next?_plain plain.1, ih plain.2 fuel (Nat.le_of_succ_le_succ enough)]

/-- The group behind a character: a letter is a part of the alternative that is being read. -/
def OpenGroup.spell (group : OpenGroup) (c : Char) : OpenGroup :=
  if c = '|' then { group with branches := group.branch :: group.branches, parts := [] }
  else group.push { expression := .ofSet (formsOf c) }

theorem next?_plainItem {reading : Reading} (ignores : reading.flags.ignoreCase = true) {c : Char} (plain : IsPlain c) :
    reading.next? (plainItem c) = some { reading with innermost := reading.innermost.spell c } := by
  by_cases bar : c = '|'
  · rw [plainItem, if_pos bar, OpenGroup.spell, if_pos bar]
    rfl
  · rw [plainItem, if_neg bar, OpenGroup.spell, if_neg bar, Reading.next?, ignores,
      charSet_literal (plain.resolve_left bar)]
    rfl

theorem foldlM_plain {chars : List Char} (plain : ∀ c ∈ chars, IsPlain c) {reading : Reading}
    (ignores : reading.flags.ignoreCase = true) :
    (chars.map plainItem).foldlM Reading.next? reading =
      some { reading with innermost := chars.foldl OpenGroup.spell reading.innermost } := by
  induction chars generalizing reading with
  | nil => rfl
  | cons c chars ih =>
    rw [List.forall_mem_cons] at plain
    rw [List.map_cons, List.foldlM_cons, next?_plainItem ignores plain.1, List.foldl_cons]
    exact ih plain.2 ignores

/-- What a list of words is read as. -/
def spelled (text : String) : Part :=
  (text.toList.foldl OpenGroup.spell { index := none, outerFlags := { ignoreCase := true } }).body

/-- A list of words without marks is a pattern, unless it is too large. -/
theorem parse?_plain {text : String} (plain : ∀ c ∈ text.toList, IsPlain c)
    (shallow : (spelled text).depth ≤ maximumDepth) (fits : (spelled text).expression.fits) :
    parse? text true = some (.ofExpression (spelled text).expression) := by
  have read : expression? text true = some (spelled text).expression := by
    simp only [expression?, scan?_plain plain _ (Nat.le_refl _), Option.bind_eq_bind, Option.bind_some]
    rw [foldlM_plain plain]
    · exact if_pos (by simpa [spelled] using shallow)
    · rfl
  rw [parse?, read, Option.bind_eq_bind, Option.bind_some, if_pos fits]

end Pattern

end WorkflowSynthesis
