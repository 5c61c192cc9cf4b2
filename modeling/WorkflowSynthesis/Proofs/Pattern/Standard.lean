import WorkflowSynthesis.Pattern.Engine
import WorkflowSynthesis.Proofs.Pattern.Words
import WorkflowSynthesis.Settings.Basic

/-! The patterns of the standard settings can be read. -/

namespace WorkflowSynthesis

/-- The patterns of triggers list words. -/
theorem parse?_triggerPatterns : ∀ rule ∈ ({} : VocabularySettings).triggerPatterns,
    Pattern.parse? rule.pattern true = some (.ofExpression (Pattern.spelled rule.pattern).expression) := by
  have accepted : ∀ rule ∈ ({} : VocabularySettings).triggerPatterns,
      rule.pattern.toList.all (fun c => decide (Pattern.IsPlain c)) ∧
        (Pattern.spelled rule.pattern).depth ≤ Pattern.maximumDepth ∧
          (Pattern.spelled rule.pattern).expression.fits := by
    decide +kernel
  intro rule member
  obtain ⟨plain, shallow, fits⟩ := accepted rule member
  exact Pattern.parse?_plain (by simpa using plain) shallow fits

theorem standard_triggerPatterns :
    ∀ rule ∈ ({} : VocabularySettings).triggerPatterns, (PatternEngine.standard rule.pattern true).isSome := by
  intro rule member
  rw [PatternEngine.standard, parse?_triggerPatterns rule member, Option.map_some, Option.isSome_some]

/-- The patterns of addresses and times. -/
theorem standard_detailPatterns :
    (PatternEngine.standard ({} : VocabularySettings).urlPattern true).isSome ∧
      (PatternEngine.standard ({} : VocabularySettings).emailPattern true).isSome ∧
        (PatternEngine.standard ({} : VocabularySettings).timePattern true).isSome := by
  decide +kernel

/-- Whether the engine can read all patterns of the settings. -/
structure VocabularySettings.Readable (settings : VocabularySettings) (engine : PatternEngine) : Prop where
  triggers : ∀ rule ∈ settings.triggerPatterns, (engine rule.pattern true).isSome
  url : (engine settings.urlPattern true).isSome
  email : (engine settings.emailPattern true).isSome
  time : (engine settings.timePattern true).isSome

theorem readable_standard : ({} : VocabularySettings).Readable .standard where
  triggers := standard_triggerPatterns
  url := standard_detailPatterns.1
  email := standard_detailPatterns.2.1
  time := standard_detailPatterns.2.2

end WorkflowSynthesis
