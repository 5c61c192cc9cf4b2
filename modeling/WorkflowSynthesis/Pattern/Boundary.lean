import WorkflowSynthesis.Pattern.Property

/-! Conditions on the two characters around a place in a text. -/

namespace WorkflowSynthesis

inductive Boundary where
  | textStart
  | textEnd
  | lineStart
  | lineEnd
  | word
  | notWord
  | wordStart
  | wordEnd
  | wordStartHalf
  | wordEndHalf
  deriving DecidableEq

namespace Boundary

def isWord : Option Char → Bool
  | none => false
  | some c => Property.isWordChar c

/-- Whether the condition holds between two characters; `none` stands for an end of the text. -/
def holds : Boundary → Option Char → Option Char → Bool
  | .textStart, before, _ => before.isNone
  | .textEnd, _, after => after.isNone
  | .lineStart, before, _ => before.isNone || before == some '\n'
  | .lineEnd, _, after => after.isNone || after == some '\n'
  | .word, before, after => isWord before != isWord after
  | .notWord, before, after => isWord before == isWord after
  | .wordStart, before, after => !isWord before && isWord after
  | .wordEnd, before, after => isWord before && !isWord after
  | .wordStartHalf, before, _ => !isWord before
  | .wordEndHalf, _, after => !isWord after

end Boundary

end WorkflowSynthesis
