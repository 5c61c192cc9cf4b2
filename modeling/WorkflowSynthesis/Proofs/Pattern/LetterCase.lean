import WorkflowSynthesis.Proofs.Pattern.Standard
import WorkflowSynthesis.Proofs.Pattern.Transport
import WorkflowSynthesis.Proofs.Text.LetterCase

/-! Patterns for which both cases of an ASCII letter are the same, as they are for those of triggers and times. -/

namespace WorkflowSynthesis

/-- Whether an instruction lets both cases of an ASCII letter pass, or neither. -/
def Instruction.ignoresCase : Instruction → Bool
  | .one set _ => Text.capitals.all fun c => set.contains c.toLower == set.contains c
  | _ => true

theorem Pattern.admits_toLower {pattern : Pattern} (ignores : pattern.instructions.all Instruction.ignoresCase) :
    pattern.Admits Char.toLower where
  sets _ _ listed := Text.ignoresCase_of_capitals (Array.all_eq_true_iff_forall_mem.mp ignores _ listed)
  words := Text.ignoresCase_isWordChar
  lines _ := Text.toLower_eq_iff (by decide)

theorem admits_triggerPatterns : ∀ rule ∈ ({} : VocabularySettings).triggerPatterns, ∀ pattern,
    Pattern.parse? rule.pattern true = some pattern → pattern.Admits Char.toLower := by
  have ignores : ∀ rule ∈ ({} : VocabularySettings).triggerPatterns,
      (Pattern.ofExpression (Pattern.spelled rule.pattern).expression).instructions.all Instruction.ignoresCase := by
    decide +kernel
  intro rule member pattern read
  rw [parse?_triggerPatterns rule member, Option.some.injEq] at read
  exact read ▸ Pattern.admits_toLower (ignores rule member)

theorem admits_timePattern {pattern : Pattern}
    (read : Pattern.parse? ({} : VocabularySettings).timePattern true = some pattern) :
    pattern.Admits Char.toLower := by
  have ignores : (Pattern.parse? ({} : VocabularySettings).timePattern true).all fun pattern =>
      pattern.instructions.all Instruction.ignoresCase := by
    decide +kernel
  rw [read, Option.all_some] at ignores
  exact Pattern.admits_toLower ignores

end WorkflowSynthesis
