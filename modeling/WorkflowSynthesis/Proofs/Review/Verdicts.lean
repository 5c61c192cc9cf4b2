import Mathlib.Data.List.Perm.Subperm
import WorkflowSynthesis.Review.Basic

/-! When a rule is passed, said without its messages. -/

namespace WorkflowSynthesis

@[simp]
theorem Verdict.passed_ofProblems (rule : Rule) (problems : List String) (success : String) :
    (Verdict.ofProblems rule problems success).passed = problems.isEmpty := by
  unfold Verdict.ofProblems
  split <;> simp_all

@[simp]
theorem Verdict.rule_ofProblems (rule : Rule) (problems : List String) (success : String) :
    (Verdict.ofProblems rule problems success).rule = rule := by
  unfold Verdict.ofProblems
  split <;> rfl

namespace Review

variable {configuration : Configuration} {workflow : Workflow} {plan : Option Plan}

theorem rule_check (rule : Rule) : (check configuration workflow plan rule).rule = rule := by
  cases rule with
  | parseTextDescription =>
    cases plan with
    | none => rfl
    | some plan =>
      simp only [check, parseTextDescription]
      split <;> rfl
  | identifyComponents => cases plan <;> rfl
  | mapBusinessLogic => cases plan <;> simp [check, mapBusinessLogic]
  | planErrorHandling =>
    simp only [check, planErrorHandling]
    split
    · rfl
    · split <;> simp
  | validateJsonSyntax =>
    simp only [check, validateJsonSyntax]
    split <;> simp
  | checkNodeIdUniqueness => simp [check, checkNodeIdUniqueness]
  | verifyConnectionIntegrity => simp [check, verifyConnectionIntegrity]
  | ensureAllNodesConnected => simp [check, ensureAllNodesConnected]
  | validateCredentialReferences =>
    simp only [check, validateCredentialReferences]
    split <;> simp
  | validateNodeNames => simp [check, validateNodeNames]
  | allActionsImplemented => cases plan <;> simp [check, allActionsImplemented]
  | errorHandlingIncluded =>
    simp only [check, errorHandlingIncluded]
    split
    · rfl
    · split <;> simp
  | checkMissingParameters => simp [check, checkMissingParameters]
  | triggerPresent | actionPresent | minimumNodes | maximumNodes => rfl

theorem nodeCount_review : (workflow.review configuration plan).nodeCount = workflow.executableCount := rfl

/-- A report has one verdict on every rule. -/
theorem verdict?_review (rule : Rule) :
    (workflow.review configuration plan).verdict? rule = some (check configuration workflow plan rule) := by
  unfold Report.verdict? Workflow.review
  rw [List.find?_map]
  have selected : Rule.all.find? ((fun verdict : Verdict => decide (verdict.rule = rule)) ∘
      check configuration workflow plan) = some rule := by
    simp only [Function.comp_def, rule_check]
    cases rule <;> rfl
  rw [selected]
  rfl

section Repeated

theorem go_eq_nil {seen texts : List String} :
    repeated.go seen [] texts = [] ↔ texts.Nodup ∧ ∀ text ∈ texts, text ∉ seen := by
  induction texts generalizing seen with
  | nil => simp [repeated.go]
  | cons text rest ih =>
    unfold repeated.go
    by_cases known : text ∈ seen
    · simp [known]
    · simp only [List.contains_eq_mem, known, decide_false, Bool.false_eq_true, ↓reduceIte, ih, List.nodup_cons,
        List.mem_cons, not_or]
      grind

theorem repeated_eq_nil {texts : List String} : repeated texts = [] ↔ texts.Nodup := by
  unfold repeated
  rw [go_eq_nil]
  simp

end Repeated

theorem parseTextDescription_passed {plan : Plan} :
    (parseTextDescription (some plan)).passed = true ↔ plan.steps ≠ [] := by
  simp only [parseTextDescription]
  split <;> simp_all

theorem mapBusinessLogic_passed {plan : Plan} :
    (mapBusinessLogic (some plan)).passed = true ↔ ∀ step ∈ plan.steps, Text.isBlankText step.nodeType = false := by
  simp [mapBusinessLogic]

theorem identifyComponents_passed {plan : Plan} :
    (identifyComponents (some plan)).passed = true ↔
      (plan.steps.map (·.role)).count .trigger = 1 ∧ .action ∈ plan.steps.map (·.role) := by
  have counted : ∀ role : Role, (plan.steps.map (·.role)).count role = (plan.withRole role).length := by
    intro role
    rw [List.count, List.countP_map, List.countP_eq_length_filter]
    rfl
  rw [← List.count_pos_iff, counted, counted]
  simp [identifyComponents, Nat.one_le_iff_ne_zero, Nat.pos_iff_ne_zero]

theorem checkNodeIdUniqueness_passed :
    (checkNodeIdUniqueness workflow).passed = true ↔
      (workflow.nodes.map (·.id)).Nodup ∧ ∀ node ∈ workflow.nodes, Text.isBlankText node.id = false := by
  simp [checkNodeIdUniqueness, repeated_eq_nil]

theorem verifyConnectionIntegrity_passed :
    (verifyConnectionIntegrity workflow).passed = true ↔
      (∀ source ∈ workflow.connections.outputs.keys, source ∈ workflow.nodes.map (·.id)) ∧
        ∀ edge ∈ workflow.connections.edges, edge.target ∈ workflow.nodes.map (·.id) := by
  have distinct : ∀ texts : List String, texts.eraseDups = [] ↔ texts = [] := by
    intro texts
    simp only [List.eq_nil_iff_forall_not_mem, List.mem_eraseDups]
  simp [verifyConnectionIntegrity, distinct]

theorem rolePresent_passed {rule : Rule} {role : Role} :
    (rolePresent workflow rule role).passed = true ↔ ∃ node ∈ workflow.nodes, node.role = role := by
  simp [rolePresent, Workflow.withRole, List.length_pos_iff_exists_mem]

theorem ensureAllNodesConnected_passed :
    (ensureAllNodesConnected workflow).passed = true ↔
      ∀ node ∈ workflow.executableNodes, node.role = .trigger ∨
        ∃ edge ∈ workflow.connections.edges, edge.target = node.id := by
  simp only [ensureAllNodesConnected, Verdict.passed_ofProblems, List.isEmpty_iff, List.map_eq_nil_iff,
    List.filter_eq_nil_iff]
  refine forall₂_congr fun node _ => ?_
  simp [or_iff_not_imp_left]

theorem validateNodeNames_passed :
    (validateNodeNames configuration workflow).passed = true ↔
      (∀ node ∈ workflow.nodes, configuration.naming.fault? node.name = none) ∧ (workflow.nodes.map Node.name).Nodup := by
  simp [validateNodeNames, NamingRules.violation?, repeated_eq_nil]

theorem validateCredentialReferences_passed
    (known : ∀ node ∈ workflow.nodes, ∀ credential ∈ node.step.credentials.entries,
      credential.1 ∈ configuration.recognizedCredentials ∧ Text.isBlankText credential.2 = false) :
    (validateCredentialReferences configuration workflow).passed = true := by
  unfold validateCredentialReferences
  split
  · rfl
  · simp only [Verdict.passed_ofProblems, List.isEmpty_iff, List.flatMap_eq_nil_iff, List.mem_flatMap, List.mem_map]
    rintro _ ⟨node, listed, credential, held, rfl⟩
    obtain ⟨recognized, visible⟩ := known node listed credential held
    simp [credentialProblems, recognized, visible]

/-- Failures are handled if from every node that may fail an edge leads to one made by the pattern in use. -/
theorem errorHandlingIncluded_passed {pattern : FailurePattern}
    (found : configuration.failures.failurePattern? = some pattern)
    (handled : ∀ node ∈ workflow.nodes, node.role ≠ .errorHandler →
      configuration.catalog.mayFailType node.nodeType = true → leadsToType workflow pattern.nodeType node = true) :
    (errorHandlingIncluded configuration workflow).passed = true := by
  unfold errorHandlingIncluded
  split
  · rfl
  · simp only [found, List.partition_eq_filter_filter, Verdict.passed_ofProblems, List.isEmpty_iff, List.map_eq_nil_iff,
      List.filter_eq_nil_iff, List.mem_filter, Workflow.executableNodes]
    rintro node ⟨⟨listed, _⟩, prone⟩
    simp only [Bool.and_eq_true, decide_eq_true_eq] at prone
    simp [handled node listed prone.1 prone.2]

theorem minimumNodes_passed :
    (minimumNodes configuration workflow).passed = true ↔
      configuration.thresholds.minimumNodes.toNat ≤ workflow.executableNodes.length :=
  decide_eq_true_iff

theorem maximumNodes_passed :
    (maximumNodes configuration workflow).passed = true ↔
      workflow.executableNodes.length ≤ configuration.thresholds.maximumNodes.toNat :=
  decide_eq_true_iff

/-- Steps find their nodes when there are as many of every type. -/
theorem unmatched_eq_nil {available : List String} {steps : List Step}
    (enough : (steps.map (·.nodeType)).Subperm available) : unmatched available steps = [] := by
  induction steps generalizing available with
  | nil => rfl
  | cons step rest ih =>
    have present : step.nodeType ∈ available := enough.subset List.mem_cons_self
    have others := enough.erase step.nodeType
    rw [List.map_cons, List.erase_cons_head] at others
    simp [unmatched, present, ih others]

end Review

end WorkflowSynthesis
