import WorkflowSynthesis.Proofs.Review.Recovery

/-!
The review of a workflow whose nodes stand in another order and at other places. Of the nodes, each rule asks only what
neither changes: which there are, how many of a kind, and which has a given identifier.
-/

namespace WorkflowSynthesis

/-- A node without its place. -/
def Node.content (node : Node) : String × Step := (node.id, node.step)

/-- Whether a workflow has the nodes of another in any order and at any places, and everything else alike. -/
structure Workflow.Rearranges (rearranged workflow : Workflow) : Prop where
  name : rearranged.name = workflow.name
  nodes : (rearranged.nodes.map Node.content).Perm (workflow.nodes.map Node.content)
  connections : rearranged.connections = workflow.connections
  active : rearranged.active = workflow.active
  executionOrder : rearranged.executionOrder = workflow.executionOrder
  tags : rearranged.tags = workflow.tags

section Contents

variable {nodes others : List Node} (same : (nodes.map Node.content).Perm (others.map Node.content))
include same

/-- What is read off nodes without their places is the same up to its order. -/
theorem Node.perm_views {α : Type} (view : String × Step → α) :
    (nodes.map fun node => view node.content).Perm (others.map fun node => view node.content) := by
  have viewed := same.map view
  rwa [List.map_map, List.map_map] at viewed

theorem Node.forall_content_iff (holds : String × Step → Prop) :
    (∀ node ∈ nodes, holds node.content) ↔ ∀ node ∈ others, holds node.content := by
  have listed : ∀ nodes : List Node,
      (∀ node ∈ nodes, holds node.content) ↔ ∀ content ∈ nodes.map Node.content, holds content :=
    fun _ => List.forall_mem_map.symm
  rw [listed, listed]
  exact forall_congr' fun content => imp_congr_left same.mem_iff

theorem Node.exists_content_iff (holds : String × Step → Prop) :
    (∃ node ∈ nodes, holds node.content) ↔ ∃ node ∈ others, holds node.content := by
  have refused := Node.forall_content_iff same fun content => ¬holds content
  have negated := not_congr refused
  push Not at negated
  exact negated

end Contents

namespace Workflow

/-- Where identifiers differ, the node of an identifier is the only one that has it. -/
theorem any_node?_iff {workflow : Workflow} (distinct : (workflow.nodes.map (·.id)).Nodup) {id : String}
    {holds : Node → Bool} :
    (workflow.node? id).any holds = true ↔ ∃ node ∈ workflow.nodes, node.id = id ∧ holds node = true := by
  constructor
  · intro found
    obtain ⟨node, first, held⟩ := (Option.any_eq_true _ _).mp found
    rw [node?] at first
    exact ⟨node, List.mem_of_find?_eq_some first, by simpa using List.find?_some first, held⟩
  · rintro ⟨node, member, rfl, held⟩
    rw [node?_of_mem distinct member, Option.any_some, held]

namespace Rearranges

variable {rearranged workflow : Workflow} (rearranges : rearranged.Rearranges workflow)
include rearranges

theorem perm_ids : (rearranged.nodes.map (·.id)).Perm (workflow.nodes.map (·.id)) :=
  Node.perm_views rearranges.nodes Prod.fst

theorem executableNodes :
    (rearranged.executableNodes.map Node.content).Perm (workflow.executableNodes.map Node.content) := by
  have running : ∀ nodes : List Node, (nodes.filter Node.isExecutable).map Node.content =
      (nodes.map Node.content).filter fun content => content.2.role.isExecutable := by
    intro nodes
    rw [List.filter_map]
    rfl
  rw [Workflow.executableNodes, Workflow.executableNodes, running, running]
  exact rearranges.nodes.filter _

theorem executableCount : rearranged.executableCount = workflow.executableCount := by
  have counted := rearranges.executableNodes.length_eq
  rwa [List.length_map, List.length_map] at counted

end Rearranges

end Workflow

namespace Review

variable {configuration : Configuration} {rearranged workflow : Workflow}

/-- Which steps find no node depends on how many nodes there are of each type. -/
theorem unmatched_perm {available others : List String} (same : available.Perm others) (steps : List Step) :
    unmatched available steps = unmatched others steps := by
  induction steps generalizing available others with
  | nil => rfl
  | cons step rest ih =>
    have contained : available.contains step.nodeType = others.contains step.nodeType := by
      rw [List.contains_eq_mem, List.contains_eq_mem]
      exact decide_eq_decide.mpr same.mem_iff
    rw [unmatched, unmatched, contained, ih (same.erase step.nodeType), ih same]

section Text

/-- The numbers of a workflow are those of its nodes and connections; coordinates can always be read. -/
theorem forall_numbers_toJson_iff :
    (∀ number ∈ workflow.toJson.numbers, number.reread.isSome) ↔
      (∀ node ∈ workflow.nodes, ∀ number ∈ (Json.object node.step.members).numbers, number.reread.isSome) ∧
        ∀ number ∈ workflow.connections.toJson.numbers, number.reread.isSome := by
  have position : ∀ position : Position, ∀ number ∈ position.toJson.numbers, number.reread.isSome := fun position =>
    Json.isSome_reread_of_proper (Json.properItems_iff.mpr (by simp))
  have node : ∀ node : Node, (∀ number ∈ node.toJson.numbers, number.reread.isSome) ↔
      ∀ number ∈ (Json.object node.step.members).numbers, number.reread.isSome := by
    intro node
    rw [Node.toJson, Json.numbers, Json.memberNumbers, Json.memberNumbers, List.forall_mem_append,
      List.forall_mem_append]
    exact (and_iff_right (by simp [Json.numbers])).trans (and_iff_right (position node.position))
  have tags : workflow.tags.toJson.numbers = [] := by
    refine List.eq_nil_iff_forall_not_mem.mpr (Json.forall_numbers_list_iff.mpr ?_)
    simp [Json.numbers]
  simp only [← node, ← Json.forall_numbers_list_iff]
  simp [Workflow.toJson, Json.numbers, Json.memberNumbers, tags, or_imp, forall_and]

end Text

section Rearranged

variable (rearranges : rearranged.Rearranges workflow)
include rearranges

theorem validateJsonSyntax_rearranged :
    (validateJsonSyntax configuration rearranged).passed = (validateJsonSyntax configuration workflow).passed := by
  have most : maximumDepth = 124 + 3 := rfl
  rw [Bool.eq_iff_iff, validateJsonSyntax_passed_iff, validateJsonSyntax_passed_iff, most,
    Workflow.depth_toJson_le_iff (by decide), Workflow.depth_toJson_le_iff (by decide), forall_numbers_toJson_iff,
    forall_numbers_toJson_iff, rearranges.connections]
  exact and_congr
    (Node.forall_content_iff rearranges.nodes fun content => (Json.object content.2.parameters).depth ≤ 124)
    (and_congr_left' (Node.forall_content_iff rearranges.nodes fun content =>
      ∀ number ∈ (Json.object content.2.members).numbers, number.reread.isSome))

theorem checkNodeIdUniqueness_rearranged :
    (checkNodeIdUniqueness rearranged).passed = (checkNodeIdUniqueness workflow).passed := by
  rw [Bool.eq_iff_iff, checkNodeIdUniqueness_passed, checkNodeIdUniqueness_passed, rearranges.perm_ids.nodup_iff]
  exact and_congr_right' (Node.forall_content_iff rearranges.nodes fun content => Text.isBlankText content.1 = false)

theorem verifyConnectionIntegrity_rearranged :
    (verifyConnectionIntegrity rearranged).passed = (verifyConnectionIntegrity workflow).passed := by
  rw [Bool.eq_iff_iff, verifyConnectionIntegrity_passed_iff, verifyConnectionIntegrity_passed_iff, rearranges.connections]
  exact forall₂_congr fun id _ => rearranges.perm_ids.mem_iff

theorem rolePresent_rearranged (rule : Rule) (role : Role) :
    (rolePresent rearranged rule role).passed = (rolePresent workflow rule role).passed := by
  rw [Bool.eq_iff_iff, rolePresent_passed, rolePresent_passed]
  exact Node.exists_content_iff rearranges.nodes fun content => content.2.role = role

theorem ensureAllNodesConnected_rearranged :
    (ensureAllNodesConnected rearranged).passed = (ensureAllNodesConnected workflow).passed := by
  rw [Bool.eq_iff_iff, ensureAllNodesConnected_passed, ensureAllNodesConnected_passed, rearranges.connections]
  exact Node.forall_content_iff rearranges.executableNodes fun content =>
    content.2.role = .trigger ∨ ∃ edge ∈ workflow.connections.edges, edge.target = content.1

theorem validateCredentialReferences_rearranged :
    (validateCredentialReferences configuration rearranged).passed =
      (validateCredentialReferences configuration workflow).passed := by
  rw [Bool.eq_iff_iff, validateCredentialReferences_passed_iff, validateCredentialReferences_passed_iff]
  exact imp_congr_right fun _ => Node.forall_content_iff rearranges.nodes fun content =>
    ∀ credential ∈ content.2.credentials.entries,
      credentialProblems configuration { id := content.1, position := ⟨0, 0⟩, step := content.2 } credential = []

theorem validateNodeNames_rearranged :
    (validateNodeNames configuration rearranged).passed = (validateNodeNames configuration workflow).passed := by
  rw [Bool.eq_iff_iff, validateNodeNames_passed, validateNodeNames_passed]
  exact and_congr
    (Node.forall_content_iff rearranges.nodes fun content => configuration.naming.fault? content.2.name = none)
    (Node.perm_views rearranges.nodes fun content => content.2.name).nodup_iff

theorem allActionsImplemented_rearranged (plan : Option Plan) :
    (allActionsImplemented rearranged plan).passed = (allActionsImplemented workflow plan).passed := by
  cases plan with
  | none =>
    have typed : ∀ workflow : Workflow, (allActionsImplemented workflow none).passed = true ↔
        ∀ node ∈ workflow.nodes, node.role = .action → Text.isBlankText node.nodeType = false := by
      intro workflow
      simp only [allActionsImplemented, Verdict.passed_ofProblems, List.isEmpty_iff, List.map_eq_nil_iff,
        List.filter_eq_nil_iff, Workflow.withRole, List.mem_filter, and_imp, decide_eq_true_eq, Bool.not_eq_true]
    rw [Bool.eq_iff_iff, typed, typed]
    exact Node.forall_content_iff rearranges.nodes fun content =>
      content.2.role = .action → Text.isBlankText content.2.nodeType = false
  | some plan =>
    have available : (rearranged.executableNodes.map Node.nodeType).Perm (workflow.executableNodes.map Node.nodeType) :=
      Node.perm_views rearranges.executableNodes fun content => content.2.nodeType
    rw [allActionsImplemented, allActionsImplemented, unmatched_perm available]

theorem checkMissingParameters_rearranged :
    (checkMissingParameters configuration rearranged).passed =
      (checkMissingParameters configuration workflow).passed := by
  rw [Bool.eq_iff_iff, checkMissingParameters_passed, checkMissingParameters_passed]
  exact Node.forall_content_iff rearranges.executableNodes fun content =>
    ∀ field, content.2.Requires configuration.catalog field → Parameters.isPresent content.2.parameters field = true

theorem leadsToType_rearranged (distinct : (workflow.nodes.map (·.id)).Nodup) (nodeType : String) {node other : Node}
    (same : node.id = other.id) :
    leadsToType rearranged nodeType node = leadsToType workflow nodeType other := by
  rw [leadsToType, leadsToType, rearranges.connections, same]
  refine congrArg (fun leads => List.any _ leads) (funext fun edge => ?_)
  rw [Bool.eq_iff_iff, Workflow.any_node?_iff (rearranges.perm_ids.nodup_iff.mpr distinct),
    Workflow.any_node?_iff distinct]
  exact Node.exists_content_iff rearranges.nodes fun content =>
    content.1 = edge.target ∧ decide (content.2.nodeType = nodeType) = true

theorem errorHandlingIncluded_rearranged (distinct : (workflow.nodes.map (·.id)).Nodup) :
    (errorHandlingIncluded configuration rearranged).passed = (errorHandlingIncluded configuration workflow).passed := by
  rw [Bool.eq_iff_iff, errorHandlingIncluded_passed_iff, errorHandlingIncluded_passed_iff]
  refine imp_congr_right fun _ => exists_congr fun pattern => and_congr_right fun _ => ?_
  have leads : ∀ node, leadsToType rearranged pattern.nodeType node = leadsToType workflow pattern.nodeType node :=
    fun _ => leadsToType_rearranged rearranges distinct _ rfl
  simp only [leads]
  exact Node.forall_content_iff rearranges.executableNodes fun content =>
    content.2.role ≠ .errorHandler → configuration.catalog.mayFailType content.2.nodeType = true →
      leadsToType workflow pattern.nodeType { id := content.1, position := ⟨0, 0⟩, step := content.2 } = true

/-- No rule sees an order or a place. -/
theorem check_rearranged (distinct : (workflow.nodes.map (·.id)).Nodup) (plan : Option Plan) (rule : Rule) :
    (check configuration rearranged plan rule).passed = (check configuration workflow plan rule).passed := by
  have count := rearranges.executableCount
  cases rule with
  | parseTextDescription | identifyComponents | mapBusinessLogic | planErrorHandling => rfl
  | validateJsonSyntax =>
    rw [check, check]
    exact validateJsonSyntax_rearranged rearranges
  | checkNodeIdUniqueness => exact checkNodeIdUniqueness_rearranged rearranges
  | verifyConnectionIntegrity => exact verifyConnectionIntegrity_rearranged rearranges
  | triggerPresent => exact rolePresent_rearranged rearranges _ _
  | actionPresent => exact rolePresent_rearranged rearranges _ _
  | ensureAllNodesConnected => exact ensureAllNodesConnected_rearranged rearranges
  | validateCredentialReferences => exact validateCredentialReferences_rearranged rearranges
  | validateNodeNames => exact validateNodeNames_rearranged rearranges
  | allActionsImplemented => exact allActionsImplemented_rearranged rearranges plan
  | errorHandlingIncluded => exact errorHandlingIncluded_rearranged rearranges distinct
  | checkMissingParameters => exact checkMissingParameters_rearranged rearranges
  | minimumNodes => rw [check, check, minimumNodes, minimumNodes, count]
  | maximumNodes => rw [check, check, maximumNodes, maximumNodes, count]

end Rearranged

end Review

namespace Workflow

/-- The review of a workflow whose nodes have different identifiers, alone or against a plan, ends the same for every
rule and counts as many nodes, in whatever order the nodes are listed and wherever they stand. -/
theorem review_rearranged (configuration : Configuration) {rearranged workflow : Workflow}
    (distinct : (workflow.nodes.map (·.id)).Nodup) (rearranges : rearranged.Rearranges workflow) (plan : Option Plan) :
    (∀ rule, ((rearranged.review configuration plan).verdict? rule).map (·.passed) =
      ((workflow.review configuration plan).verdict? rule).map (·.passed)) ∧
        (rearranged.review configuration plan).nodeCount = (workflow.review configuration plan).nodeCount := by
  refine ⟨fun rule => ?_, rearranges.executableCount⟩
  rw [Review.verdict?_review, Review.verdict?_review, Option.map_some, Option.map_some,
    Review.check_rearranged rearranges distinct]

/-- The nodes of a loose workflow in the other order, at other places. -/
def scattered : Workflow :=
  { loose with nodes := (loose.nodes.map fun node => { node with position := ⟨-40, 8⟩ }).reverse }

theorem rearranges_scattered : scattered.Rearranges loose where
  name := rfl
  nodes := by
    rw [scattered, List.map_reverse, List.map_map]
    exact List.reverse_perm _
  connections := rfl
  active := rfl
  executionOrder := rfl
  tags := rfl

/-- Its edge leads nowhere, either way. -/
theorem review_rearranged_scattered :
    (loose.nodes.map (·.id)).Nodup ∧ scattered.Rearranges loose ∧ scattered.nodes.map (·.id) = ["send", "start"] ∧
      ∀ configuration,
        ((scattered.review configuration none).verdict? .verifyConnectionIntegrity).map (·.passed) = some false ∧
          (scattered.review configuration none).nodeCount = 2 := by
  have distinct : (loose.nodes.map (·.id)).Nodup := by decide
  refine ⟨distinct, rearranges_scattered, rfl, fun configuration => ?_⟩
  obtain ⟨outcomes, count⟩ := review_rearranged configuration distinct rearranges_scattered none
  have failed : (Review.verifyConnectionIntegrity loose).passed = false := by decide +kernel
  refine ⟨?_, count⟩
  rw [outcomes, Review.verdict?_review, Option.map_some, Review.check, failed]

end Workflow

end WorkflowSynthesis
