import WorkflowSynthesis.Proofs.Json.Readable
import WorkflowSynthesis.Proofs.Plan.Standard
import WorkflowSynthesis.Proofs.Review.Agreement
import WorkflowSynthesis.Proofs.Workflow.Relay
import WorkflowSynthesis.Proofs.Workflow.RoundTrip

/-!
What the review finds in the drawing of a plan, from what is known of its steps: names, credentials, the number of
nodes, the guarding of failures, and whether the text of the workflow can be read again.
-/

namespace WorkflowSynthesis

/-- The standard rules accept a name that the standard pattern matches, of at most fifty characters. -/
theorem Configuration.Follows.fault?_eq_none {configuration : Configuration} (follows : configuration.Follows {})
    {name : String} (matched : Pattern.standardName.matchesText name = true) (short : name.length ≤ 50) :
    configuration.naming.fault? name = none := by
  have pattern : configuration.naming.pattern = Pattern.standardName.matcher := by
    have read := follows.namePattern
    rw [PatternEngine.standard, Pattern.parse?_standardName, Option.map_some, Option.some.injEq] at read
    exact read.symm
  have most : configuration.naming.settings.maxLength.toNat = 50 := by
    rw [follows.naming]
    rfl
  have accepts : Pattern.standardName.matcher.matchesText name = true := matched
  rw [NamingRules.fault?, most, if_neg (by omega), pattern, if_pos accepts]

namespace Review

/-- The text of a workflow is passed if it does not nest too deep and all its numbers can be read again. -/
theorem validateJsonSyntax_passed_iff {configuration : Configuration} {workflow : Workflow} :
    (validateJsonSyntax configuration workflow).passed = true ↔
      workflow.toJson.depth ≤ maximumDepth ∧ ∀ number ∈ workflow.toJson.numbers, number.reread.isSome := by
  have parsed : Json.parse? (workflow.toText configuration.output.jsonIndentation.toNat) =
      if workflow.toJson.depth ≤ maximumDepth then workflow.toJson.stated.value? else none :=
    Json.parse?_pretty _ _
  unfold validateJsonSyntax
  dsimp only
  rw [parsed, ← Json.isSome_value?_stated]
  by_cases shallow : workflow.toJson.depth ≤ maximumDepth
  · rw [if_pos shallow]
    cases found : workflow.toJson.stated.value? with
    | none => simp
    | some value =>
      -- What is read has the keys that were written, none of which is written twice.
      obtain ⟨members, read, rfl⟩ := Option.map_eq_some_iff.mp found
      have keys : Members.keys members = ["name", "nodes", "connections", "active", "settings", "tags"] :=
        Json.keys_of_memberValues? read
      have present : ∀ property ∈ requiredProperties,
          (Members.value? (Members.ofList members) property).isNone = false := by
        intro property required
        rw [Members.ofList_eq (by rw [keys]; decide), Option.isNone_eq_false_iff, Option.isSome_iff_ne_none,
          Members.value?, ne_eq, List.lookup_eq_none_iff]
        have listed : property ∈ Members.keys members := by
          rw [keys]
          exact (by decide : requiredProperties ⊆ _) required
        obtain ⟨entry, member, rfl⟩ := List.mem_map.mp listed
        exact fun absent => by simpa using absent entry member
      simpa [Json.members?, List.filter_eq_nil_iff, shallow, ← Option.isSome_iff_ne_none] using present
  · rw [if_neg shallow]
    simp [shallow]

/-- The text of a workflow is passed unless it nests too deep. -/
theorem validateJsonSyntax_passed {configuration : Configuration} {workflow : Workflow}
    (proper : ∀ node ∈ workflow.nodes, (Json.object node.step.parameters).Proper) :
    (validateJsonSyntax configuration workflow).passed = true ↔ workflow.toJson.depth ≤ maximumDepth :=
  validateJsonSyntax_passed_iff.trans (and_iff_left (Json.isSome_reread_of_proper (Workflow.proper_toJson proper)))

/-- A workflow in which the structural rules find no fault. -/
structure Faultless (configuration : Configuration) (workflow : Workflow) : Prop where
  nodup_ids : (workflow.nodes.map (·.id)).Nodup
  visible_ids : ∀ node ∈ workflow.nodes, Text.isBlankText node.id = false
  nodup_names : (workflow.nodes.map Node.name).Nodup
  legal_names : ∀ node ∈ workflow.nodes, configuration.naming.fault? node.name = none
  sources : ∀ source ∈ workflow.connections.outputs.keys, source ∈ workflow.nodes.map (·.id)
  targets : ∀ edge ∈ workflow.connections.edges, edge.target ∈ workflow.nodes.map (·.id)
  reached : ∀ node ∈ workflow.executableNodes, node.role = .trigger ∨
    ∃ edge ∈ workflow.connections.edges, edge.target = node.id
  credentials : ∀ node ∈ workflow.nodes, ∀ credential ∈ node.step.credentials.entries,
    credential.1 ∈ configuration.recognizedCredentials ∧ Text.isBlankText credential.2 = false
  guarded : ∃ pattern, configuration.failures.failurePattern? = some pattern ∧
    ∀ node ∈ workflow.nodes, node.role ≠ .errorHandler → configuration.catalog.mayFailType node.nodeType = true →
      leadsToType workflow pattern.nodeType node = true
  trigger : ∃ node ∈ workflow.nodes, node.role = .trigger
  action : ∃ node ∈ workflow.nodes, node.role = .action

/-- The rules that look at the workflow alone, but for the numbers of nodes, parameters and its text. -/
def structuralRules : List Rule :=
  [.checkNodeIdUniqueness, .verifyConnectionIntegrity, .triggerPresent, .actionPresent, .ensureAllNodesConnected,
    .validateCredentialReferences, .validateNodeNames, .errorHandlingIncluded]

theorem Faultless.passed {configuration : Configuration} {workflow : Workflow}
    (faultless : Faultless configuration workflow) (plan : Option Plan) :
    ∀ rule ∈ structuralRules, (check configuration workflow plan rule).passed = true := by
  obtain ⟨pattern, found, guarded⟩ := faultless.guarded
  simp only [structuralRules, List.forall_mem_cons, List.not_mem_nil, false_implies, implies_true, and_true]
  exact ⟨checkNodeIdUniqueness_passed.mpr ⟨faultless.nodup_ids, faultless.visible_ids⟩,
    verifyConnectionIntegrity_passed.mpr ⟨faultless.sources, faultless.targets⟩,
    rolePresent_passed.mpr faultless.trigger,
    rolePresent_passed.mpr faultless.action,
    ensureAllNodesConnected_passed.mpr faultless.reached,
    validateCredentialReferences_passed faultless.credentials,
    validateNodeNames_passed.mpr ⟨faultless.legal_names, faultless.nodup_names⟩,
    errorHandlingIncluded_passed found guarded⟩

/-- A trigger and an action are two nodes. -/
theorem two_le_executableNodes {workflow : Workflow} (trigger : ∃ node ∈ workflow.nodes, node.role = .trigger)
    (action : ∃ node ∈ workflow.nodes, node.role = .action) : 2 ≤ workflow.executableNodes.length := by
  obtain ⟨first, firstListed, isTrigger⟩ := trigger
  obtain ⟨second, secondListed, isAction⟩ := action
  have firstRuns : first ∈ workflow.executableNodes :=
    List.mem_filter.mpr ⟨firstListed, by simp [Node.isExecutable, isTrigger, Role.isExecutable]⟩
  have secondRuns : second ∈ workflow.executableNodes :=
    List.mem_filter.mpr ⟨secondListed, by simp [Node.isExecutable, isAction, Role.isExecutable]⟩
  have different : first ≠ second := by
    rintro rfl
    simp [isTrigger] at isAction
  match nodes : workflow.executableNodes with
  | [] => simp [nodes] at firstRuns
  | [node] =>
    rw [nodes, List.mem_singleton] at firstRuns secondRuns
    exact absurd (firstRuns.trans secondRuns.symm) different
  | _ :: _ :: _ => simp

section Build

variable {configuration : Configuration} {identifiers : Identifiers} {name : String} {steps : List Step}

theorem nodes_build : (Workflow.build configuration identifiers name steps).1.nodes =
    (Draft.ofSteps (Workflow.drawing configuration identifiers) steps).nodes := rfl

theorem nodup_ids_build (distinct : Function.Injective identifiers) :
    ((Workflow.build configuration identifiers name steps).1.nodes.map (·.id)).Nodup := by
  have laid : (Draft.ofSteps (Workflow.drawing configuration identifiers) steps).Laid
      (Workflow.drawing configuration identifiers) := Draft.laid_ofSteps distinct steps
  exact laid.nodup_ids distinct

/-- Every node is that of a step that is no note, but for its name and its error mode, or ends a branch. -/
theorem origin_build :
    ∀ node ∈ (Workflow.build configuration identifiers name steps).1.nodes,
      (∃ step ∈ steps, step.role ≠ .note ∧ node.step.core = step.core) ∨
        ∃ source outputs output, node.step.core = (Step.branchEnd source outputs output).core := by
  intro node member
  obtain ⟨placement, listed, rfl⟩ := List.mem_map.mp member
  refine ((Draft.grown_ofSteps _ steps).origin placement listed).imp ?_ And.right
  rintro ⟨placed, _⟩
  obtain ⟨index, isSource⟩ := Option.isSome_iff_exists.mp placed
  obtain ⟨step, place, notNote, same⟩ := Draft.exists_step_ofSteps listed isSource
  exact ⟨step, List.mem_of_getElem? place, notNote, same⟩

theorem isExecutable_build :
    ∀ node ∈ (Workflow.build configuration identifiers name steps).1.nodes, node.isExecutable = true := by
  intro node member
  have runs : node.role ≠ .note := by
    rcases origin_build node member with ⟨step, _, notNote, same⟩ | ⟨source, outputs, output, same⟩
    · have role : node.role = step.role := congrArg (·.role) same
      rwa [role]
    · have role : node.role = .action := congrArg (·.role) same
      rw [role]
      decide
  simp [Node.isExecutable, Role.isExecutable, runs]

theorem names_build (follows : configuration.Follows {}) (nameable : ∀ step ∈ steps, step.Nameable)
    (few : (steps.map Step.span).sum ≤ 97) :
    (∀ node ∈ (Workflow.build configuration identifiers name steps).1.nodes,
      configuration.naming.fault? node.name = none) ∧
        ((Workflow.build configuration identifiers name steps).1.nodes.map Node.name).Nodup := by
  have grown := Draft.grown_ofSteps (Workflow.drawing configuration identifiers) steps
  have length := Draft.length_ofSteps_le (Workflow.drawing configuration identifiers) steps
  refine ⟨fun node member => ?_, grown.nodup_names⟩
  have named := grown.named nameable (by omega) node member
  exact follows.fault?_eq_none named.matched (by have short := named.short; omega)

theorem credentials_build (follows : configuration.Follows {}) (sound : ∀ step ∈ steps, step.Sound) :
    ∀ node ∈ (Workflow.build configuration identifiers name steps).1.nodes,
      ∀ credential ∈ node.step.credentials.entries,
        credential.1 ∈ configuration.recognizedCredentials ∧ Text.isBlankText credential.2 = false := by
  intro node member
  rw [follows.recognizedCredentials]
  rcases origin_build node member with ⟨step, planned, _, same⟩ | ⟨source, outputs, output, same⟩
  · have credentials : node.step.credentials = step.credentials := congrArg (·.credentials) same
    rw [credentials]
    exact (sound step planned).credentials
  · have credentials : node.step.credentials = .empty := congrArg (·.credentials) same
    simp [credentials, Dictionary.empty]

theorem fits_build {bound : Nat} (room : 1 ≤ bound) (fits : ∀ step ∈ steps, (Json.object step.parameters).Fits bound) :
    ∀ node ∈ (Workflow.build configuration identifiers name steps).1.nodes,
      (Json.object node.step.parameters).Fits bound := by
  intro node member
  rcases origin_build node member with ⟨step, planned, _, same⟩ | ⟨source, outputs, output, same⟩
  · have parameters : node.step.parameters = step.parameters := congrArg (·.parameters) same
    rw [parameters]
    exact fits step planned
  · have parameters : node.step.parameters = [] := congrArg (·.parameters) same
    rw [parameters]
    exact ⟨⟨.nil, trivial⟩, room⟩

/-- An edge leads from the node of a step that may fail to the handler that is planned for it. -/
theorem leadsToType_build {called : List Step} {pattern : FailurePattern}
    (enabled : configuration.failures.enabled = true)
    (found : configuration.failures.failurePattern? = some pattern) (distinct : Function.Injective identifiers) :
    let workflow := (Workflow.build configuration identifiers name
      (called ++ Plan.handlers configuration.failures called)).1
    ∀ node ∈ workflow.nodes, node.role ≠ .errorHandler → node.step.mayFail = true →
      leadsToType workflow pattern.nodeType node = true := by
  intro workflow node member notHandler prone
  obtain ⟨placement, listed, rfl⟩ := List.mem_map.mp member
  rcases (Draft.grown_ofSteps _ _).origin placement listed with ⟨placed, _⟩ | ⟨_, source, outputs, output, same⟩
  · obtain ⟨index, isSource⟩ := Option.isSome_iff_exists.mp placed
    obtain ⟨step, place, notNote, same⟩ := Draft.exists_step_ofSteps listed isSource
    have role : placement.node.role = step.role := congrArg (·.role) same
    have mayFail : placement.node.step.mayFail = step.mayFail := congrArg (·.mayFail) same
    rw [role] at notHandler
    rw [mayFail] at prone
    obtain ⟨handlerPlace, handlerPlanned⟩ := List.mem_iff_getElem?.mp (Plan.handlerOf_mem enabled found place prone)
    have relays : (Draft.ofSteps (Workflow.drawing configuration identifiers) _).Relays
        (Workflow.drawing configuration identifiers) index handlerPlace :=
      Draft.relays_ofSteps distinct place notNote notHandler handlerPlanned rfl rfl
    obtain ⟨guarded, guardedListed, guardedSource, handler, handlerListed, handlerSource, output, edge, _⟩ := relays
    obtain rfl : guarded = placement := Draft.eq_of_source guardedListed listed guardedSource isSource
    obtain ⟨handlerStep, handlerStepPlace, _, handlerSame⟩ := Draft.exists_step_ofSteps handlerListed handlerSource
    obtain rfl := Option.some.inj (handlerStepPlace.symm.trans handlerPlanned)
    have handlerType : handler.node.nodeType = pattern.nodeType := congrArg (·.nodeType) handlerSame
    have found : workflow.node? handler.node.id = some handler.node :=
      Workflow.node?_of_mem (nodup_ids_build distinct) (List.mem_map_of_mem handlerListed)
    rw [leadsToType, List.any_eq_true]
    refine ⟨_, Connections.mem_outgoing.mpr ⟨edge, rfl⟩, ?_⟩
    rw [found, Option.any_some, handlerType, decide_eq_true_eq]
  · have mayFail : placement.node.step.mayFail = false := congrArg (·.mayFail) same
    simp [mayFail] at prone

/-- A handler is planned for every step whose type may fail, and an edge leads to it from the node of that step. -/
theorem guarded_build {called : List Step} {pattern : FailurePattern} (enabled : configuration.failures.enabled = true)
    (found : configuration.failures.failurePattern? = some pattern)
    (prone : ∀ step ∈ called, configuration.catalog.mayFailType step.nodeType = true → step.mayFail = true)
    (ends : configuration.catalog.mayFailType Step.passThroughType = false) (distinct : Function.Injective identifiers) :
    let workflow := (Workflow.build configuration identifiers name
      (called ++ Plan.handlers configuration.failures called)).1
    ∀ node ∈ workflow.nodes, node.role ≠ .errorHandler → configuration.catalog.mayFailType node.nodeType = true →
      leadsToType workflow pattern.nodeType node = true := by
  intro workflow node member notHandler risky
  refine leadsToType_build enabled found distinct node member notHandler ?_
  rcases origin_build node member with ⟨step, planned, _, same⟩ | ⟨source, outputs, output, same⟩
  · have role : node.role = step.role := congrArg (·.role) same
    have nodeType : node.nodeType = step.nodeType := congrArg (·.nodeType) same
    have mayFail : node.step.mayFail = step.mayFail := congrArg (·.mayFail) same
    rw [role] at notHandler
    rw [nodeType] at risky
    rw [mayFail]
    refine prone step ((List.mem_append.mp planned).resolve_right fun handler => notHandler ?_) risky
    obtain ⟨_, _, _, _, _, _, _, rfl⟩ := Plan.mem_handlers.mp handler
    rfl
  · have nodeType : node.nodeType = Step.passThroughType := congrArg (·.nodeType) same
    simp [nodeType, ends] at risky

theorem length_executableNodes_le :
    (Workflow.build configuration identifiers name steps).1.executableNodes.length ≤ (steps.map Step.span).sum + 1 := by
  refine (List.length_filter_le _ _).trans ?_
  rw [nodes_build, Draft.nodes, List.length_map]
  exact Draft.length_ofSteps_le _ steps

/-- What is drawn under the standard settings from sound steps, and the handlers of those that may fail, has no
fault. -/
theorem faultless_build {called : List Step} (follows : configuration.Follows {}) (checked : configuration.Checked)
    (proper : identifiers.Proper)
    (prone : ∀ step ∈ called, configuration.catalog.mayFailType step.nodeType = true → step.mayFail = true)
    (planned : steps = called ++ Plan.handlers configuration.failures called)
    (sound : ∀ step ∈ steps, step.Sound) (few : (steps.map Step.span).sum ≤ 97)
    (trigger : ∃ step ∈ steps, step.role = .trigger) (action : ∃ step ∈ steps, step.role = .action) :
    Faultless configuration (Workflow.build configuration identifiers name steps).1 := by
  obtain ⟨first, isPlanned, isTrigger⟩ := trigger
  obtain ⟨second, alsoPlanned, isAction⟩ := action
  obtain ⟨pattern, found⟩ := Option.isSome_iff_exists.mp checked.failurePattern
  have enabled : configuration.failures.enabled = true := by rw [follows.failures]
  have ends : configuration.catalog.mayFailType Step.passThroughType = false := by
    rw [follows.catalog_standard]
    exact Step.passThrough_standard.2.2
  have wired := wired_build configuration identifiers isPlanned isTrigger
  have unique : (checkNodeIdUniqueness (Workflow.build configuration identifiers name steps).1).passed = true :=
    checkNodeIdUniqueness_build isPlanned isTrigger proper
  obtain ⟨distinct, visible⟩ := checkNodeIdUniqueness_passed.mp unique
  have nameable : ∀ step ∈ steps, step.Nameable := fun step member => (sound step member).nameable
  exact {
    nodup_ids := distinct
    visible_ids := visible
    nodup_names := (names_build follows nameable few).2
    legal_names := (names_build follows nameable few).1
    sources := wired.sources
    targets := wired.targets
    reached := fun node listed => wired.reached node (List.mem_filter.mp listed).1
    credentials := credentials_build follows sound
    guarded := by
      subst planned
      exact ⟨pattern, found, guarded_build enabled found prone ends proper.distinct⟩
    trigger := isTrigger ▸ exists_node_build isPlanned (by simp [isTrigger])
    action := isAction ▸ exists_node_build alsoPlanned (by simp [isAction]) }

end Build

end Review

end WorkflowSynthesis
