import WorkflowSynthesis.Proofs.Review.Advisory
import WorkflowSynthesis.Proofs.Workflow.Recovery

/-!
The review of a workflow that was written and read. It comes out the same if every node has the role that its type
suggests, or handles failures like an action, and if the catalog entry of its type requires what it requires itself.
-/

namespace WorkflowSynthesis

/-- Whether a step requires a field, by itself or by its catalog entry. -/
def Step.Requires (catalog : Catalog) (step : Step) (field : String) : Prop :=
  field ∈ step.requiredFields ∨ ∃ entry ∈ catalog.entryOf? step.key step.nodeType, field ∈ entry.requiredFields

/-- A step of which the review sees as much once it was written and read. -/
structure Step.Recoverable (catalog : Catalog) (step : Step) : Prop where
  role : step.role = Role.ofNodeType step.nodeType ∨
    step.role = .errorHandler ∧ Role.ofNodeType step.nodeType = .action ∧ catalog.mayFailType step.nodeType = false
  typed : Text.isBlankText step.nodeType = false
  required : ∀ field, step.reloaded.Requires catalog field ↔ step.Requires catalog field

/-- No type suggests that a node handles failures. -/
theorem Role.ofNodeType_ne_errorHandler (nodeType : String) : ofNodeType nodeType ≠ .errorHandler := by
  unfold ofNodeType
  dsimp only
  repeat' split
  all_goals decide

/-- What is left of a node after it was written and read, its numbers included. -/
def Node.recovered (node : Node) : Node := node.readBack.reloaded

namespace Step.Recoverable

variable {catalog : Catalog} {step : Step}

/-- Only roles, types, keys and required fields matter. -/
theorem of_core {other : Step} (recoverable : other.Recoverable catalog) (same : step.core = other.core) :
    step.Recoverable catalog := by
  have role : step.role = other.role := congrArg (·.role) same
  have nodeType : step.nodeType = other.nodeType := congrArg (·.nodeType) same
  have key : step.key = other.key := congrArg (·.key) same
  have required : step.requiredFields = other.requiredFields := congrArg (·.requiredFields) same
  refine ⟨?_, ?_, fun field => ?_⟩
  · rw [role, nodeType]
    exact recoverable.role
  · rw [nodeType]
    exact recoverable.typed
  · have kept := recoverable.required field
    simp only [Requires, reloaded] at kept ⊢
    rw [key, nodeType, required]
    exact kept

end Step.Recoverable

namespace Review

variable {configuration : Configuration} {workflow : Workflow}

section Fields

theorem mem_foldl_fields {fields : List String} {field : String} (known : List String) :
    field ∈ fields.foldl (fun known field => if known.contains field then known else known ++ [field]) known ↔
      field ∈ known ∨ field ∈ fields := by
  induction fields generalizing known with
  | nil => simp
  | cons next rest ih =>
    rw [List.foldl_cons, ih]
    split
    · next held =>
      have present : next ∈ known := by simpa using held
      grind
    · grind

theorem mem_requiredFields {node : Node} {field : String} :
    field ∈ requiredFields configuration node ↔ node.step.Requires configuration.catalog field := by
  rw [requiredFields, mem_foldl_fields, Step.Requires, Node.nodeType]
  refine or_congr_right ?_
  cases configuration.catalog.entryOf? node.step.key node.step.nodeType <;> simp

/-- No parameter is missing if every node that runs has what it requires. -/
theorem checkMissingParameters_passed :
    (checkMissingParameters configuration workflow).passed = true ↔
      ∀ node ∈ workflow.executableNodes, ∀ field, node.step.Requires configuration.catalog field →
        Parameters.isPresent node.step.parameters field = true := by
  simp only [checkMissingParameters, Verdict.passed_ofProblems, List.isEmpty_iff, List.map_eq_nil_iff,
    List.filter_eq_nil_iff]
  refine forall₂_congr fun node _ => ?_
  simp [missingFields, Parameters.missing, List.filter_eq_nil_iff, mem_requiredFields]

end Fields

theorem errorHandlingIncluded_passed_iff :
    (errorHandlingIncluded configuration workflow).passed = true ↔ configuration.failures.enabled = true →
      ∃ pattern, configuration.failures.failurePattern? = some pattern ∧
        ∀ node ∈ workflow.executableNodes, node.role ≠ .errorHandler →
          configuration.catalog.mayFailType node.nodeType = true → leadsToType workflow pattern.nodeType node = true := by
  unfold errorHandlingIncluded
  split
  · next disabled => simp_all
  · next enabled =>
    cases found : configuration.failures.failurePattern? with
    | none => simp_all
    | some pattern =>
      simp only [List.partition_eq_filter_filter, Verdict.passed_ofProblems, List.isEmpty_iff, List.map_eq_nil_iff,
        List.filter_eq_nil_iff, List.mem_filter]
      simp_all

theorem validateCredentialReferences_passed_iff :
    (validateCredentialReferences configuration workflow).passed = true ↔
      configuration.thresholds.credentialValidation = true → ∀ node ∈ workflow.nodes,
        ∀ credential ∈ node.step.credentials.entries, credentialProblems configuration node credential = [] := by
  unfold validateCredentialReferences
  split
  · next disabled => simp_all
  · next enabled =>
    simp only [Verdict.passed_ofProblems, List.isEmpty_iff, List.flatMap_eq_nil_iff, List.mem_flatMap, List.mem_map]
    constructor
    · intro sound _ node member credential held
      exact sound (node, credential) ⟨node, member, credential, held, rfl⟩
    · rintro sound _ ⟨node, member, credential, held, rfl⟩
      exact sound (by simpa using enabled) node member credential held

section Recovered

variable (recoverable : ∀ node ∈ workflow.nodes, node.step.Recoverable configuration.catalog)

theorem nodes_recovered : workflow.recovered.nodes = workflow.nodes.map Node.recovered := by
  rw [Workflow.recovered, Workflow.reloaded, Workflow.readBack, List.map_map]
  rfl

theorem node?_recovered (id : String) : workflow.recovered.node? id = (workflow.node? id).map Node.recovered := by
  rw [Workflow.node?, Workflow.node?, nodes_recovered, List.find?_map]
  rfl

theorem leadsToType_recovered (nodeType : String) (node : Node) :
    leadsToType workflow.recovered nodeType node.recovered = leadsToType workflow nodeType node := by
  unfold leadsToType
  refine congrArg (fun leads => List.any _ leads) (funext fun edge => ?_)
  rw [node?_recovered, Option.any_map]
  rfl

include recoverable

/-- A node has another role than before only if it handled failures and is taken for an action. -/
theorem role_recovered {node : Node} (member : node ∈ workflow.nodes) :
    node.recovered.role = if node.role = .errorHandler then .action else node.role := by
  have recovered : node.recovered.role = Role.ofNodeType node.step.nodeType := rfl
  rw [recovered]
  rcases (recoverable node member).role with same | ⟨handles, action, -⟩
  · have other : node.role ≠ .errorHandler := by
      rw [Node.role, same]
      exact Role.ofNodeType_ne_errorHandler _
    rw [if_neg other, Node.role, same]
  · rw [Node.role, if_pos handles, action]

/-- The trigger is still found first. -/
theorem trigger?_recovered : workflow.recovered.trigger? = workflow.trigger?.map Node.recovered := by
  have first : workflow.nodes.find? ((·.role = .trigger) ∘ Node.recovered) = workflow.trigger? := by
    rw [Workflow.trigger?, ← List.head?_filter, ← List.head?_filter]
    refine congrArg List.head? (List.filter_congr fun node member => ?_)
    rw [Function.comp_apply, role_recovered recoverable member]
    cases node.role <;> rfl
  rw [Workflow.trigger?, nodes_recovered, List.find?_map, first]

theorem executableNodes_recovered : workflow.recovered.executableNodes = workflow.executableNodes.map Node.recovered := by
  rw [Workflow.executableNodes, nodes_recovered, List.filter_map, Workflow.executableNodes]
  refine congrArg (List.map Node.recovered) (List.filter_congr fun node member => ?_)
  rw [Function.comp_apply, Node.isExecutable, Node.isExecutable, role_recovered recoverable member]
  cases node.role <;> rfl

theorem rolePresent_trigger_recovered (rule : Rule) :
    (rolePresent workflow.recovered rule .trigger).passed = (rolePresent workflow rule .trigger).passed := by
  rw [Bool.eq_iff_iff, rolePresent_passed, rolePresent_passed, nodes_recovered]
  simp only [List.mem_map, exists_exists_and_eq_and]
  refine exists_congr fun node => and_congr_right fun member => ?_
  rw [role_recovered recoverable member]
  cases node.role <;> decide

/-- Nodes that handled failures are taken for actions, but then there is an action without them, too. -/
theorem rolePresent_action_recovered (rule : Rule)
    (handled : (∃ node ∈ workflow.nodes, node.role = .errorHandler) → ∃ node ∈ workflow.nodes, node.role = .action) :
    (rolePresent workflow.recovered rule .action).passed = (rolePresent workflow rule .action).passed := by
  rw [Bool.eq_iff_iff, rolePresent_passed, rolePresent_passed, nodes_recovered]
  simp only [List.mem_map, exists_exists_and_eq_and]
  constructor
  · rintro ⟨node, member, acts⟩
    rw [role_recovered recoverable member] at acts
    by_cases handles : node.role = .errorHandler
    · exact handled ⟨node, member, handles⟩
    · exact ⟨node, member, (if_neg handles).symm.trans acts⟩
  · rintro ⟨node, member, acts⟩
    refine ⟨node, member, ?_⟩
    rw [role_recovered recoverable member, acts]
    decide

theorem ensureAllNodesConnected_recovered :
    (ensureAllNodesConnected workflow.recovered).passed = (ensureAllNodesConnected workflow).passed := by
  rw [Bool.eq_iff_iff, ensureAllNodesConnected_passed, ensureAllNodesConnected_passed,
    executableNodes_recovered recoverable, List.forall_mem_map]
  refine forall₂_congr fun node runs => or_congr ?_ Iff.rfl
  rw [role_recovered recoverable (List.mem_filter.mp runs).1]
  cases node.role <;> decide

omit recoverable in
theorem allActionsImplemented_of_typed (typed : ∀ node ∈ workflow.nodes, Text.isBlankText node.nodeType = false) :
    (allActionsImplemented workflow none).passed = true := by
  simp only [allActionsImplemented, Verdict.passed_ofProblems, List.isEmpty_iff, List.map_eq_nil_iff,
    List.filter_eq_nil_iff, Bool.not_eq_true]
  exact fun node acts => typed node (List.mem_filter.mp acts).1

theorem allActionsImplemented_recovered :
    (allActionsImplemented workflow.recovered none).passed = (allActionsImplemented workflow none).passed := by
  have typed : ∀ node ∈ workflow.nodes, Text.isBlankText node.nodeType = false := fun node member =>
    (recoverable node member).typed
  rw [allActionsImplemented_of_typed typed, allActionsImplemented_of_typed]
  rw [nodes_recovered]
  exact List.forall_mem_map.mpr typed

theorem errorHandlingIncluded_recovered :
    (errorHandlingIncluded configuration workflow.recovered).passed =
      (errorHandlingIncluded configuration workflow).passed := by
  rw [Bool.eq_iff_iff, errorHandlingIncluded_passed_iff, errorHandlingIncluded_passed_iff,
    executableNodes_recovered recoverable]
  refine imp_congr_right fun _ => exists_congr fun pattern => and_congr_right fun _ => ?_
  rw [List.forall_mem_map]
  refine forall₂_congr fun node runs => ?_
  have member : node ∈ workflow.nodes := (List.mem_filter.mp runs).1
  have nodeType : node.recovered.nodeType = node.nodeType := rfl
  rw [role_recovered recoverable member, nodeType, leadsToType_recovered]
  by_cases handles : node.role = .errorHandler
  · have harmless : configuration.catalog.mayFailType node.nodeType = false := by
      rcases (recoverable node member).role with same | ⟨_, _, harmless⟩
      · exact absurd (same.symm.trans handles) (Role.ofNodeType_ne_errorHandler _)
      · exact harmless
    simp [handles, harmless]
  · rw [if_neg handles]

theorem checkMissingParameters_recovered :
    (checkMissingParameters configuration workflow.recovered).passed =
      (checkMissingParameters configuration workflow).passed := by
  rw [Bool.eq_iff_iff, checkMissingParameters_passed, checkMissingParameters_passed,
    executableNodes_recovered recoverable, List.forall_mem_map]
  refine forall₂_congr fun node runs => forall_congr' fun field => ?_
  have parameters : node.recovered.step.parameters = Json.readBackMembers node.step.parameters := rfl
  rw [parameters, Parameters.isPresent_readBackMembers]
  exact imp_congr_left ((recoverable node (List.mem_filter.mp runs).1).required field)

omit recoverable in
theorem validateCredentialReferences_recovered :
    (validateCredentialReferences configuration workflow.recovered).passed =
      (validateCredentialReferences configuration workflow).passed := by
  rw [Bool.eq_iff_iff, validateCredentialReferences_passed_iff, validateCredentialReferences_passed_iff, nodes_recovered,
    List.forall_mem_map]
  rfl

omit recoverable in
/-- What is read nests as deep as what was written. -/
theorem validateJsonSyntax_recovered (proper : ∀ node ∈ workflow.nodes, (Json.object node.step.parameters).Proper) :
    (validateJsonSyntax configuration workflow.recovered).passed =
      (validateJsonSyntax configuration workflow).passed := by
  have stillProper : ∀ node ∈ workflow.recovered.nodes, (Json.object node.step.parameters).Proper := by
    rw [nodes_recovered]
    exact List.forall_mem_map.mpr fun node member => Json.proper_readBack (proper node member)
  rw [Bool.eq_iff_iff, validateJsonSyntax_passed stillProper, validateJsonSyntax_passed proper,
    Workflow.depth_toJson_recovered]

/-- Each rule ends the same once the workflow was written and read. -/
theorem check_recovered (proper : ∀ node ∈ workflow.nodes, (Json.object node.step.parameters).Proper)
    (handled : (∃ node ∈ workflow.nodes, node.role = .errorHandler) → ∃ node ∈ workflow.nodes, node.role = .action)
    (rule : Rule) :
    (check configuration workflow.recovered none rule).passed = (check configuration workflow none rule).passed := by
  have count : workflow.recovered.executableCount = workflow.executableCount := by
    rw [Workflow.executableCount, executableNodes_recovered recoverable, List.length_map, Workflow.executableCount]
  have views {α : Type} (view : Node → α) (kept : ∀ node : Node, view node.recovered = view node) :
      workflow.recovered.nodes.map view = workflow.nodes.map view := by
    rw [nodes_recovered, List.map_map]
    exact List.map_congr_left fun node _ => kept node
  -- Identifiers, names and edges are read as they were written; rules on anything else have a lemma of their own.
  cases rule with
  | parseTextDescription | identifyComponents | mapBusinessLogic | planErrorHandling => rfl
  | validateJsonSyntax =>
    rw [check, check]
    exact validateJsonSyntax_recovered proper
  | checkNodeIdUniqueness =>
    refine Bool.eq_iff_iff.mpr (checkNodeIdUniqueness_passed.trans (Iff.trans ?_ checkNodeIdUniqueness_passed.symm))
    rw [views (·.id) fun _ => rfl, nodes_recovered, List.forall_mem_map]
    rfl
  | verifyConnectionIntegrity =>
    refine Bool.eq_iff_iff.mpr (verifyConnectionIntegrity_passed.trans (Iff.trans ?_ verifyConnectionIntegrity_passed.symm))
    rw [views (·.id) fun _ => rfl]
    rfl
  | triggerPresent => exact rolePresent_trigger_recovered recoverable _
  | actionPresent => exact rolePresent_action_recovered recoverable _ handled
  | ensureAllNodesConnected => exact ensureAllNodesConnected_recovered recoverable
  | validateCredentialReferences => exact validateCredentialReferences_recovered
  | validateNodeNames =>
    refine Bool.eq_iff_iff.mpr (validateNodeNames_passed.trans (Iff.trans ?_ validateNodeNames_passed.symm))
    rw [views Node.name fun _ => rfl, nodes_recovered, List.forall_mem_map]
    rfl
  | allActionsImplemented => exact allActionsImplemented_recovered recoverable
  | errorHandlingIncluded => exact errorHandlingIncluded_recovered recoverable
  | checkMissingParameters => exact checkMissingParameters_recovered recoverable
  | minimumNodes => simp only [check, minimumNodes, count]
  | maximumNodes => simp only [check, maximumNodes, count]

end Recovered

end Review

end WorkflowSynthesis
