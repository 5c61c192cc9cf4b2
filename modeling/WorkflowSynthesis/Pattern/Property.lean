import WorkflowSynthesis.Pattern.CharSet
import WorkflowSynthesis.Text.Alphabetic
import WorkflowSynthesis.Text.Blank
import WorkflowSynthesis.Text.Letter
import WorkflowSynthesis.Text.Mark
import WorkflowSynthesis.Text.Numeric
import WorkflowSynthesis.Text.Recent

/-! The character properties that a pattern can name. Patterns know the characters of Unicode 16. -/

namespace WorkflowSynthesis

inductive Property where
  | alphabetic
  | blank
  | decimalDigit
  | letter
  | lowercase
  | mark
  | numeric
  | uppercase
  | wordChar
  deriving DecidableEq

namespace Property

def connectorRanges : List (Nat × Nat) :=
  [(0x5F, 0x5F), (0x203F, 0x2040), (0x2054, 0x2054), (0xFE33, 0xFE34), (0xFE4D, 0xFE4F), (0xFF3F, 0xFF3F)]

def joinerRanges : List (Nat × Nat) := [(0x200C, 0x200D)]

def isWordChar (c : Char) : Bool :=
  (Text.isAlphabetic c || Text.isDecimalDigit c || Text.isMark c || Text.covers connectorRanges c.toNat ||
    Text.covers joinerRanges c.toNat) && !Text.isRecent c

def known (ranges : List (Nat × Nat)) : CharSet := (CharSet.mk ranges).difference ⟨Text.recentRanges⟩

def runRanges (runs : List Text.Run) : List (Nat × Nat) := runs.flatMap fun run => run.within run.first run.last

def digits : CharSet := known Text.digitRanges

def words : CharSet :=
  known (((((CharSet.mk Text.alphabeticRanges).union ⟨Text.markRanges⟩).union ⟨Text.digitRanges⟩).union
    ⟨connectorRanges⟩).union ⟨joinerRanges⟩).ranges

def set : Property → CharSet
  | .alphabetic => known Text.alphabeticRanges
  | .blank => ⟨Text.blankRanges⟩
  | .decimalDigit => digits
  | .letter => ⟨Text.letterRanges⟩
  | .lowercase => .ofRanges (runRanges Text.lowercaseRuns)
  | .mark => ⟨Text.markRanges⟩
  | .numeric => digits.union (known Text.otherNumberRanges)
  | .uppercase => .ofRanges (runRanges Text.uppercaseRuns)
  | .wordChar => words

/-- The property of a name, in which case, spaces, hyphens and underscores do not count. -/
def ofName? (name : List Char) : Option Property :=
  match String.ofList ((name.filter fun c => c ≠ ' ' ∧ c ≠ '-' ∧ c ≠ '_').map Char.toLower) with
  | "alphabetic" | "alpha" => some .alphabetic
  | "whitespace" | "wspace" | "space" => some .blank
  | "nd" | "decimalnumber" | "digit" => some .decimalDigit
  | "l" | "letter" => some .letter
  | "ll" | "lowercaseletter" => some .lowercase
  | "m" | "mark" | "combiningmark" => some .mark
  | "n" | "number" => some .numeric
  | "lu" | "uppercaseletter" => some .uppercase
  | _ => none

end Property

end WorkflowSynthesis
