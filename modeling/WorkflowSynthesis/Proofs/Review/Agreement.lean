import WorkflowSynthesis.Proofs.Configuration.Standard
import WorkflowSynthesis.Proofs.Plan.Steps
import WorkflowSynthesis.Proofs.Review.Verdicts
import WorkflowSynthesis.Proofs.Workflow.Identifiers
import WorkflowSynthesis.Proofs.Workflow.Placement

/-!
Drawing and review agree. Whatever is planned under an accepted configuration and drawn with identifiers
that do not repeat is passed by the rules that look at how steps are placed, connected and guarded.
-/

namespace WorkflowSynthesis

namespace Review

variable {configuration : Configuration}

theorem planErrorHandling_passed (known : configuration.failures.failurePattern?.isSome) (called : List Step)
    (diagnostics : List Diagnostic) :
    (planErrorHandling configuration (some ⟨called ++ Plan.handlers configuration.failures called, diagnostics⟩)).passed =
      true := by
  unfold planErrorHandling
  split
  · rfl
  · next enabled =>
    simp only [Bool.not_eq_true, Bool.not_eq_false'] at enabled
    simp only [Verdict.passed_ofProblems, List.isEmpty_iff, List.map_eq_nil_iff, List.filter_eq_nil_iff, Prod.forall,
      List.mem_zipIdx_iff_getElem?]
    intro step index place
    simp only [Bool.and_eq_true, not_and, Bool.not_eq_true, Bool.not_eq_false', List.contains_iff_mem,
      List.mem_eraseDups, List.mem_filterMap]
    exact fun prone => Plan.exists_guard enabled known place prone

theorem isExecutable_of_isExpected {node : Node} (expected : isExpected node.step = true) :
    node.isExecutable = true := by
  unfold Node.isExecutable Node.role Role.isExecutable
  cases role : node.step.role <;> simp_all [isExpected]

/-- Nodes of steps that must be found again are among those that run. -/
theorem expected_sublist (placements : List Placement) :
    (((placements.filterMap Placement.planned?).filter fun part => isExpected part.2).map
      fun part => part.2.nodeType).Sublist
      (((placements.map (·.node)).filter Node.isExecutable).map Node.nodeType) := by
  induction placements with
  | nil => exact .slnil
  | cons placement rest ih =>
    cases planned : placement.source with
    | none =>
      rw [List.filterMap_cons_none (by simp [Placement.planned?, planned])]
      refine ih.trans ?_
      exact (((List.sublist_cons_self _ _).map _).filter _).map _
    | some index =>
      have found : placement.planned? = some (index, placement.node.step.core) := by
        simp [Placement.planned?, planned]
      rw [List.filterMap_cons_some found, List.map_cons]
      by_cases expected : isExpected placement.node.step = true
      · have runs : placement.node.isExecutable = true := isExecutable_of_isExpected expected
        rw [List.filter_cons_of_pos (by exact expected), List.filter_cons_of_pos runs]
        exact ih.cons_cons _
      · rw [List.filter_cons_of_neg (by exact expected)]
        refine ih.trans ?_
        exact ((List.sublist_cons_self _ _).filter _).map _

/-- A drawing has a node for every step that must be found again. -/
theorem expected_subperm (drawing : Drawing) (steps : List Step) :
    ((steps.filter isExpected).map (·.nodeType)).Subperm
      (((Draft.ofSteps drawing steps).nodes.filter Node.isExecutable).map Node.nodeType) := by
  have sublist : (((Draft.ofSteps drawing steps).planned.filter fun part => isExpected part.2).map
      fun part => part.2.nodeType).Sublist
        (((Draft.ofSteps drawing steps).nodes.filter Node.isExecutable).map Node.nodeType) := expected_sublist _
  rw [Draft.planned_ofSteps, List.filter_map, List.map_map] at sublist
  have perm := ((PlanParts.order_perm steps).filter fun part => isExpected part.2).map fun part => part.2.nodeType
  rw [List.filter_filter] at perm
  have notes : ∀ part : Nat × Step,
      (isExpected part.2 && decide (part.2.role ≠ .note)) = isExpected part.2 := by
    intro part
    cases role : part.2.role <;> simp [isExpected, role]
  simp only [notes] at perm
  rw [PlanParts.map_filter_numbered steps isExpected] at perm
  exact perm.symm.subperm.trans sublist.subperm

theorem allActionsImplemented_passed {workflow : Workflow} {plan : Plan}
    (enough : ((plan.steps.filter isExpected).map (·.nodeType)).Subperm
      (workflow.executableNodes.map Node.nodeType)) : (allActionsImplemented workflow plan).passed = true := by
  simp [allActionsImplemented, unmatched_eq_nil enough]

section Build

variable {identifiers : Identifiers} {name : String} {steps : List Step}

variable (configuration identifiers) in
theorem wired_build {trigger : Step} (member : trigger ∈ steps) (isTrigger : trigger.role = .trigger) :
    (Draft.ofSteps (Workflow.drawing configuration identifiers) steps).Wired
      (Workflow.drawing configuration identifiers) := Draft.wired_ofSteps member isTrigger

theorem checkNodeIdUniqueness_build {trigger : Step} (member : trigger ∈ steps) (isTrigger : trigger.role = .trigger)
    (proper : identifiers.Proper) :
    (checkNodeIdUniqueness (Workflow.build configuration identifiers name steps).1).passed = true := by
  have wired := wired_build configuration identifiers member isTrigger
  refine checkNodeIdUniqueness_passed.mpr ⟨wired.nodup_ids proper.distinct, ?_⟩
  intro node listed
  obtain ⟨index, same⟩ := wired.exists_identifier (List.mem_map_of_mem listed)
  rw [← same]
  exact proper.visible index

theorem verifyConnectionIntegrity_build {trigger : Step} (member : trigger ∈ steps)
    (isTrigger : trigger.role = .trigger) :
    (verifyConnectionIntegrity (Workflow.build configuration identifiers name steps).1).passed = true := by
  have wired := wired_build configuration identifiers member isTrigger
  exact verifyConnectionIntegrity_passed.mpr ⟨wired.sources, wired.targets⟩

theorem ensureAllNodesConnected_build {trigger : Step} (member : trigger ∈ steps)
    (isTrigger : trigger.role = .trigger) :
    (ensureAllNodesConnected (Workflow.build configuration identifiers name steps).1).passed = true := by
  have wired := wired_build configuration identifiers member isTrigger
  refine ensureAllNodesConnected_passed.mpr fun node listed => ?_
  exact wired.reached node (List.mem_filter.mp listed).1

/-- A step of any role but that of a note has a node. -/
theorem exists_node_build {step : Step} (member : step ∈ steps) (placed : step.role ≠ .note) :
    ∃ node ∈ (Workflow.build configuration identifiers name steps).1.nodes, node.role = step.role := by
  obtain ⟨node, listed, same⟩ := Draft.exists_node (Workflow.drawing configuration identifiers) member placed
  have sameRole : node.step.core.role = step.core.role := congrArg Step.role same
  exact ⟨node, listed, sameRole⟩

theorem rolePresent_build {rule : Rule} {step : Step} {role : Role} (member : step ∈ steps) (hasRole : step.role = role)
    (placed : role ≠ .note) :
    (rolePresent (Workflow.build configuration identifiers name steps).1 rule role).passed = true := by
  subst hasRole
  exact rolePresent_passed.mpr (exists_node_build member placed)

theorem allActionsImplemented_build (diagnostics : List Diagnostic) :
    (allActionsImplemented (Workflow.build configuration identifiers name steps).1
      (some ⟨steps, diagnostics⟩)).passed = true :=
  allActionsImplemented_passed (expected_subperm (Workflow.drawing configuration identifiers) steps)

end Build

end Review

/-- Under every accepted configuration, what is drawn from a plan is passed by the rules that compare it
with the plan and look at its wiring. -/
theorem review_of_build {settings : Settings} {engine : PatternEngine} {configuration : Configuration}
    (accepted : Configuration.ofSettings settings engine = .ok configuration) (classification : Classification)
    (overrides : Overrides) (services : List String) (name : String) {identifiers : Identifiers}
    (proper : identifiers.Proper) :
    let plan := Plan.ofClassification configuration classification overrides services
    let workflow := (Workflow.build configuration identifiers name plan.steps).1
    ∀ rule ∈ [Rule.planErrorHandling, .checkNodeIdUniqueness, .verifyConnectionIntegrity, .triggerPresent,
        .ensureAllNodesConnected, .allActionsImplemented],
      ((workflow.review configuration plan).verdict? rule).map (·.passed) = some true := by
  have checked := Configuration.checked_of_ofSettings accepted
  intro plan workflow rule member
  rw [Review.verdict?_review, Option.map_some, Option.some.injEq]
  obtain ⟨trigger, planned, isTrigger⟩ :=
    Plan.exists_trigger configuration classification overrides services checked.catalog
  simp only [List.mem_cons, List.not_mem_nil, or_false] at member
  rcases member with rfl | rfl | rfl | rfl | rfl | rfl
  · exact Review.planErrorHandling_passed checked.failurePattern _ _
  · exact Review.checkNodeIdUniqueness_build planned isTrigger proper
  · exact Review.verifyConnectionIntegrity_build planned isTrigger
  · exact Review.rolePresent_build planned isTrigger (by decide)
  · exact Review.ensureAllNodesConnected_build planned isTrigger
  · exact Review.allActionsImplemented_build _

/-- Services that name a second trigger and a condition, with numbered identifiers. -/
theorem review_of_build_numbered :
    ∃ configuration, Configuration.ofSettings {} = .ok configuration ∧
      let plan := Plan.ofClassification configuration (configuration.vocabulary.classify "send") .empty
        ["webhook", "condition"]
      let workflow := (Workflow.build configuration (.sequential "node") "Alert" plan.steps).1
      ∀ rule ∈ [Rule.planErrorHandling, .checkNodeIdUniqueness, .verifyConnectionIntegrity, .triggerPresent,
          .ensureAllNodesConnected, .allActionsImplemented],
        ((workflow.review configuration plan).verdict? rule).map (·.passed) = some true := by
  obtain ⟨configuration, accepted⟩ := Configuration.exists_standard
  exact ⟨configuration, accepted, review_of_build accepted _ _ _ _ (Identifiers.proper_sequential "node")⟩

end WorkflowSynthesis
