import WorkflowSynthesis.Generator
import WorkflowSynthesis.Proofs.Plan.Order
import WorkflowSynthesis.Proofs.Review.Drawn

/-!
What the standard settings generate from a description and parameters of the caller, without services. Whatever the
description says, the workflow has no fault and every rule is passed, but for parameters that are missing and
parameters of the caller that nest too deep to be read again.
-/

namespace WorkflowSynthesis

/-- Parameters that can be written and read again, but for their depth. -/
def Overrides.Proper (overrides : Overrides) : Prop :=
  ∀ entry ∈ overrides.entries, (Json.object entry.2).Proper

theorem Overrides.Proper.exists_fits {overrides : Overrides} (proper : overrides.Proper) :
    ∃ bound, 4 ≤ bound ∧ ∀ entry ∈ overrides.entries, (Json.object entry.2).Fits bound := by
  refine ⟨4 + (overrides.entries.map fun entry => (Json.object entry.2).depth).sum, Nat.le_add_right _ _, ?_⟩
  intro entry member
  refine ⟨proper entry member, Nat.le_trans ?_ (Nat.le_add_left _ _)⟩
  exact List.le_sum_of_mem (List.mem_map_of_mem member)

namespace Review

section Standard

variable {configuration : Configuration} {classification : Classification} {overrides : Overrides}
  {identifiers : Identifiers} {name : String}

variable (accepted : Configuration.standard = .ok configuration) (reads : configuration.vocabulary.Reads classification)
include accepted reads

theorem identifyComponents_standard (overrides : Overrides) :
    (identifyComponents (some (Plan.ofClassification configuration classification overrides []))).passed = true := by
  have consistent := Configuration.consistent_of_follows (Configuration.follows_of_ofSettings accepted)
  have uncalled : Plan.calledRoles configuration classification [] = [] := Plan.calledRoles_eq_nil.mpr rfl
  rw [Plan.identifyComponents_steps_iff overrides consistent reads (Configuration.checked_of_ofSettings accepted).catalog,
    uncalled]
  exact ⟨List.not_mem_nil, fun _ called => absurd rfl called⟩

theorem exists_step_standard (overrides : Overrides) {role : Role} (needed : role = .trigger ∨ role = .action) :
    ∃ step ∈ (Plan.ofClassification configuration classification overrides []).steps, step.role = role := by
  obtain ⟨single, acts⟩ := identifyComponents_passed.mp (identifyComponents_standard accepted reads overrides)
  rcases needed with rfl | rfl
  · exact List.mem_map.mp (List.count_pos_iff.mp (Nat.lt_of_lt_of_eq Nat.zero_lt_one single.symm))
  · exact List.mem_map.mp acts

theorem faultless_standard (proper : identifiers.Proper) :
    Faultless configuration (Workflow.build configuration identifiers name
      (Plan.ofClassification configuration classification overrides []).steps).1 := by
  have follows := Configuration.follows_of_ofSettings accepted
  refine faultless_build follows (Configuration.checked_of_ofSettings accepted) proper
    (fun step called => (Plan.sound_called follows reads called).2.2)
    (Plan.steps_ofClassification configuration classification overrides [])
    (fun step member => Plan.sound_steps follows reads member) ?_
    (exists_step_standard accepted reads overrides (.inl rfl)) (exists_step_standard accepted reads overrides (.inr rfl))
  exact Nat.le_trans (Plan.sum_span_le follows reads []) (by decide)

/-- A description asks for so few steps that there are never more than 37 nodes. -/
theorem length_executableNodes_standard (proper : identifiers.Proper) :
    let workflow := (Workflow.build configuration identifiers name
      (Plan.ofClassification configuration classification overrides []).steps).1
    2 ≤ workflow.executableNodes.length ∧ workflow.executableNodes.length ≤ 37 := by
  intro workflow
  have faultless : Faultless configuration workflow := faultless_standard accepted reads proper
  have few : ((Plan.ofClassification configuration classification overrides []).steps.map Step.span).sum ≤ 36 :=
    Plan.sum_span_le (Configuration.follows_of_ofSettings accepted) reads []
  refine ⟨two_le_executableNodes faultless.trigger faultless.action, ?_⟩
  exact length_executableNodes_le.trans (Nat.succ_le_succ few)

/-- The text of a workflow is read again unless parameters of the caller nest too deep. -/
theorem validateJsonSyntax_standard (proper : overrides.Proper) :
    let workflow := (Workflow.build configuration identifiers name
      (Plan.ofClassification configuration classification overrides []).steps).1
    (validateJsonSyntax configuration workflow).passed = true ∨
      maximumDepth < workflow.toJson.depth ∧ ∃ entry ∈ overrides.entries, 125 ≤ (Json.object entry.2).depth := by
  intro workflow
  have follows := Configuration.follows_of_ofSettings accepted
  have fits : ∀ {bound : Nat}, 4 ≤ bound → (∀ entry ∈ overrides.entries, (Json.object entry.2).Fits bound) →
      ∀ node ∈ workflow.nodes, (Json.object node.step.parameters).Fits bound := fun room each =>
    fits_build (Nat.le_trans (by decide) room) fun step member => Plan.fits_steps follows reads room each member
  obtain ⟨bound, room, each⟩ := proper.exists_fits
  rw [validateJsonSyntax_passed fun node member => (fits room each node member).1, ← Nat.not_lt, ← imp_iff_not_or]
  intro deep
  refine ⟨deep, ?_⟩
  by_contra shallow
  simp only [not_exists, not_and, Nat.not_le] at shallow
  have inside : ∀ node ∈ workflow.nodes, (Json.object node.step.parameters).depth ≤ 124 := fun node member =>
    (fits (by decide) (fun entry listed => ⟨proper entry listed, Nat.le_of_lt_succ (shallow entry listed)⟩) node member).2
  exact Nat.not_lt.mpr (Workflow.depth_toJson_le (by decide) inside) deep

theorem passed_standard (proper : identifiers.Proper) (overridesProper : overrides.Proper) (rule : Rule) :
    let plan := Plan.ofClassification configuration classification overrides []
    let workflow := (Workflow.build configuration identifiers name plan.steps).1
    (check configuration workflow (some plan) rule).passed = true ∨ rule = .checkMissingParameters ∨
      rule = .validateJsonSyntax ∧ maximumDepth < workflow.toJson.depth ∧
        ∃ entry ∈ overrides.entries, 125 ≤ (Json.object entry.2).depth := by
  intro plan workflow
  have follows := Configuration.follows_of_ofSettings accepted
  have faultless : Faultless configuration workflow := faultless_standard accepted reads proper
  have structural := faultless.passed plan
  obtain ⟨least, most⟩ : 2 ≤ workflow.executableNodes.length ∧ workflow.executableNodes.length ≤ 37 :=
    length_executableNodes_standard accepted reads proper
  cases rule with
  | parseTextDescription =>
    obtain ⟨step, planned, _⟩ := exists_step_standard accepted reads overrides (.inl rfl)
    exact .inl (parseTextDescription_passed.mpr (List.ne_nil_of_mem planned))
  | identifyComponents => exact .inl (identifyComponents_standard accepted reads overrides)
  | mapBusinessLogic =>
    exact .inl (mapBusinessLogic_passed.mpr fun step planned => (Plan.sound_steps follows reads planned).typed)
  | planErrorHandling =>
    exact .inl (planErrorHandling_passed (Configuration.checked_of_ofSettings accepted).failurePattern _ _)
  | validateJsonSyntax =>
    rw [check]
    exact (validateJsonSyntax_standard accepted reads overridesProper).imp_right fun deep => .inr ⟨rfl, deep⟩
  | allActionsImplemented => exact .inl (allActionsImplemented_build _)
  | checkMissingParameters => exact .inr (.inl rfl)
  | minimumNodes =>
    refine .inl (minimumNodes_passed.mpr ?_)
    rw [follows.thresholds]
    exact least
  | maximumNodes =>
    refine .inl (maximumNodes_passed.mpr ?_)
    rw [follows.thresholds]
    exact Nat.le_trans most (by decide)
  | checkNodeIdUniqueness | verifyConnectionIntegrity | triggerPresent | actionPresent | ensureAllNodesConnected
  | validateCredentialReferences | validateNodeNames | errorHandlingIncluded => exact .inl (structural _ (by decide))

end Standard

end Review

namespace Generator

/-- The report is on the workflow as it is drawn, notes or not. -/
theorem report_generate (generator : Generator) (description : String) (context : GenerationContext) :
    (generator.generate description context).report =
      (generator.draw description context).1.review generator.configuration (generator.plan description context) := by
  unfold generate
  dsimp only
  split <;> rfl

/-- Under the standard settings, every description and all parameters of a caller who names no services give a
workflow without a fault, with 2 to 50 nodes. Its report passes every rule, unless parameters are missing or those of
the caller nest too deep. -/
theorem generate_standard :
    ∃ configuration, Configuration.standard = .ok configuration ∧
      ∀ (identifiers : Identifiers) (documents : Bool) (description : String) (context : GenerationContext),
        identifiers.Proper → context.services = [] → context.overrides.Proper →
          let generator : Generator := { configuration, identifiers, documents }
          let workflow := (generator.draw description context).1
          let report := (generator.generate description context).report
          Review.Faultless configuration workflow ∧
            2 ≤ workflow.executableNodes.length ∧ workflow.executableNodes.length ≤ 50 ∧
              report.verdicts.map (·.rule) = Rule.all ∧
                ∀ verdict ∈ report.verdicts, verdict.passed = true ∨ verdict.rule = .checkMissingParameters ∨
                  verdict.rule = .validateJsonSyntax ∧ maximumDepth < workflow.toJson.depth ∧
                    ∃ entry ∈ context.overrides.entries, 125 ≤ (Json.object entry.2).depth := by
  obtain ⟨configuration, accepted⟩ := Configuration.exists_standard
  refine ⟨configuration, accepted, fun identifiers documents description context proper alone overrides => ?_⟩
  have reads : configuration.vocabulary.Reads (configuration.vocabulary.classify description) :=
    Vocabulary.reads_classify description
  intro generator workflow report
  have drawn : workflow = (Workflow.build configuration identifiers (configuration.naming.workflowName description)
      (Plan.ofClassification configuration (configuration.vocabulary.classify description) context.overrides []).steps).1 := by
    rw [← alone]
    rfl
  have reported : report.verdicts = Rule.all.map (Review.check configuration workflow
      (some (Plan.ofClassification configuration (configuration.vocabulary.classify description) context.overrides []))) := by
    rw [← alone]
    exact congrArg Report.verdicts (report_generate generator description context)
  obtain ⟨least, most⟩ : 2 ≤ workflow.executableNodes.length ∧ workflow.executableNodes.length ≤ 37 := by
    rw [drawn]
    exact Review.length_executableNodes_standard accepted reads proper
  refine ⟨drawn ▸ Review.faultless_standard accepted reads proper, least, Nat.le_trans most (by decide), ?_, ?_⟩
  · rw [reported, List.map_map]
    exact List.map_id'' Review.rule_check _
  · intro verdict listed
    rw [reported] at listed
    obtain ⟨rule, _, rfl⟩ := List.mem_map.mp listed
    rw [Review.rule_check, drawn]
    exact Review.passed_standard accepted reads proper overrides rule

/-- A channel that the caller wants a message to go to. -/
def orders : GenerationContext where
  overrides := Dictionary.empty.insert "slack" [("channel", .text "#orders")]

/-- No parameter of that caller nests too deep. -/
theorem generate_standard_orders :
    ∃ configuration, Configuration.standard = .ok configuration ∧
      let generator : Generator := { configuration, identifiers := .sequential "node", documents := true }
      let description := "Every day at 9:30, filter the orders, merge them and send the result to Slack"
      ∀ verdict ∈ (generator.generate description orders).report.verdicts,
        verdict.passed = true ∨ verdict.rule = .checkMissingParameters := by
  obtain ⟨configuration, accepted, generated⟩ := generate_standard
  refine ⟨configuration, accepted, fun verdict listed => ?_⟩
  have proper : ∀ entry ∈ orders.overrides.entries, (Json.object entry.2).Proper := by decide
  obtain ⟨_, _, _, _, passed⟩ :=
    generated (.sequential "node") true _ orders (Identifiers.proper_sequential "node") rfl proper
  have shallow : ∀ entry ∈ orders.overrides.entries, (Json.object entry.2).depth < 125 := by decide
  rcases passed verdict listed with done | missing | ⟨_, _, entry, held, deep⟩
  · exact .inl done
  · exact .inr missing
  · exact absurd deep (Nat.not_le.mpr (shallow entry held))

end Generator

end WorkflowSynthesis
