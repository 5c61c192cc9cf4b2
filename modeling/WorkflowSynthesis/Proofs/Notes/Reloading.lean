import WorkflowSynthesis.Proofs.Plan.Distinct
import WorkflowSynthesis.Proofs.Review.Reloading
import WorkflowSynthesis.Proofs.Workflow.Tree

/-!
A generated workflow that is written and read gets the notes that it had, under the standard settings and without
services of the caller. Handlers share their type with the ends of branches, but only to handlers do edges carry
failures, each handler has one edge, and the node at its other end is named like the step that it guards.
-/

namespace WorkflowSynthesis

namespace Documentation

section Standard

variable {configuration : Configuration} {identifiers : Identifiers} {name : String}
variable {classification : Classification} {overrides : Overrides}

/-- One edge leads to every node but the trigger. -/
theorem inboundCount_build (accepted : Configuration.standard = .ok configuration)
    (reads : configuration.vocabulary.Reads classification) (distinct : Function.Injective identifiers) :
    let workflow := (Workflow.build configuration identifiers name
      (Plan.ofClassification configuration classification overrides []).steps).1
    ∀ node ∈ workflow.nodes, node.role ≠ .trigger → workflow.connections.inboundCount node.id = 1 := by
  intro workflow node member other
  have single : ((Plan.ofClassification configuration classification overrides []).steps.filter
      (·.role = .trigger)).length = 1 := by
    obtain ⟨one, _⟩ := Review.identifyComponents_passed.mp
      (Review.identifyComponents_standard accepted reads overrides)
    rw [List.count, List.countP_map, List.countP_eq_length_filter] at one
    exact one
  obtain ⟨root, only, tree⟩ :=
    @Draft.tree_ofSteps (Workflow.drawing configuration identifiers) distinct _ single
  obtain ⟨rootListed, isTrigger⟩ := List.mem_filter.mp (only ▸ List.mem_singleton_self root)
  refine tree.single node.id (List.mem_map_of_mem member) fun same => other ?_
  rw [List.inj_on_of_nodup_map (Review.nodup_ids_build distinct) member rootListed same]
  exact of_decide_eq_true isTrigger

variable (follows : configuration.Follows {}) (reads : configuration.vocabulary.Reads classification)
include follows reads

/-- Nothing that branches may fail. -/
theorem mayFailType_of_branching :
    let workflow := (Workflow.build configuration identifiers name
      (Plan.ofClassification configuration classification overrides []).steps).1
    ∀ node ∈ workflow.nodes, node.step.isBranching = true →
      configuration.catalog.mayFailType node.nodeType = false := by
  intro workflow node member branching
  have isCondition : node.role = .condition := (Step.isBranching_iff.mp branching).1
  rcases Review.origin_build node member with ⟨step, planned, _, same⟩ | ⟨source, outputs, output, same⟩
  · have role : step.role = .condition := (congrArg (·.role) same).symm.trans isCondition
    have nodeType : node.nodeType = step.nodeType := congrArg (·.nodeType) same
    rw [Plan.steps_ofClassification, List.mem_append] at planned
    rcases planned with called | handler
    · rw [nodeType]
      exact (Plan.recognizable_called follows reads called).condition role
    · obtain ⟨_, pattern, _, index, guarded, _, _, rfl⟩ := Plan.mem_handlers.mp handler
      cases role
  · have role : node.role = .action := congrArg (·.role) same
    exact absurd (role.symm.trans isCondition) (by decide)

/-- Nodes of steps that are called for are recognized by their type. -/
theorem retold_called {workflow : Workflow} {node : Node} {mode : String} {step : Step}
    (called : step ∈ Plan.calledSteps configuration classification overrides []) (shows : node.Shows mode step) :
    Retold configuration workflow node := by
  have recognizable := Plan.recognizable_called follows reads called
  have role : node.role = step.role := shows.role
  have nodeType : node.nodeType = step.nodeType := by rw [Node.nodeType, shows.kept]
  have untyped : configuration.failures.failurePattern?.any (·.nodeType = node.nodeType) = false := by
    rw [Option.any_eq_false]
    intro pattern found
    rw [(Plan.failurePattern_standard follows found).1, nodeType]
    simpa using recognizable.typed.symm
  have sameRole : node.role = Role.ofNodeType node.nodeType := by rw [role, nodeType, recognizable.role]
  refine .other sameRole ?_ (fun typed => absurd (typed.symm.trans untyped) (by decide)) ?_
  · rw [isHandlerLike, untyped, Bool.and_false, Bool.or_false, decide_eq_false_iff_not, sameRole]
    exact Role.ofNodeType_ne_errorHandler _
  · rw [shows.kept]
    exact recognizable.service

omit reads in
/-- No failures lead to the end of a branch, though it has the type of handlers. -/
theorem retold_branchEnd {workflow : Workflow} {node parent : Node} {mode : String} {output : Nat}
    (shows : node.Shows mode (Step.branchEnd parent.name parent.step.outputs output))
    (single : workflow.connections.inboundCount node.id = 1)
    (edge : { source := parent.id, output, target := node.id, input := 0 } ∈ workflow.connections.edges)
    (found : workflow.node? parent.id = some parent)
    (calm : configuration.catalog.mayFailType parent.nodeType = false) : Retold configuration workflow node := by
  have role : node.role = .action := shows.role
  have nodeType : node.nodeType = Step.passThroughType := by rw [Node.nodeType, shows.kept]; rfl
  have key : node.step.key = "branch_end" := by rw [shows.kept]; rfl
  obtain ⟨written, read⟩ := Step.callsService_branchEnd parent.name parent.step.outputs output
  refine .other ?_ ?_ (fun _ => ?_) ?_
  · rw [role, nodeType, Step.passThrough_standard.2.1]
  · simp [isHandlerLike, role, key]
  · rw [failing?_of_single single edge rfl found, carriesFailures, calm, Bool.false_and]
    exact if_neg Bool.false_ne_true
  · rw [follows.catalog_standard, shows.kept]
    exact read.trans written.symm

/-- An edge carries the failures for which a handler is planned from a node that is named like the guarded step. -/
theorem exists_edge_to_handler (distinct : Function.Injective identifiers) {guarded : Step} {index place : Nat}
    {placement : Placement} {pattern : FailurePattern} :
    let plan := Plan.ofClassification configuration classification overrides []
    let draft := Draft.ofSteps (Workflow.drawing configuration identifiers) plan.steps
    placement ∈ draft.placements → placement.source = some place →
      plan.steps[place]? = some (Plan.handlerOf pattern index guarded) →
        (Plan.calledSteps configuration classification overrides [])[index]? = some guarded → guarded.mayFail = true →
          ∃ source ∈ draft.nodes, source.name = guarded.name ∧ ∃ output,
            { source := source.id, output, target := placement.node.id, input := 0 } ∈ draft.connections.edges ∧
              carriesFailures configuration source output = true := by
  intro plan draft member origin handlerPlanned guardedPlace prone
  have called := List.mem_of_getElem? guardedPlace
  have recognizable := Plan.recognizable_called follows reads called
  obtain ⟨mayFail, telling, ways⟩ := recognizable.prone prone
  have action := Plan.role_of_mayFail follows reads called prone
  have inside : index < (Plan.calledSteps configuration classification overrides []).length :=
    (List.getElem?_eq_some_iff.mp guardedPlace).1
  have planned : plan.steps[index]? = some guarded := by
    rw [Plan.steps_ofClassification, List.getElem?_append_left inside, guardedPlace]
  have relays : draft.Relays (Workflow.drawing configuration identifiers) index place :=
    Draft.relays_ofSteps distinct planned (by rw [action]; decide) (by rw [action]; decide) handlerPlanned rfl rfl
  obtain ⟨source, listed, sourcePlace, twin, twinListed, twinOrigin, output, edge, mode⟩ := relays
  obtain rfl : twin = placement := Draft.eq_of_source twinListed member twinOrigin origin
  have traced : draft.Traced (Workflow.drawing configuration identifiers) plan.steps :=
    Draft.traced_ofSteps distinct plan.steps
  obtain ⟨step, stepPlace, shows⟩ := traced.planned source listed index sourcePlace
  obtain rfl : step = guarded := Option.some.inj (stepPlace.symm.trans planned)
  have kept : source.node.step.errorOutput = step.errorOutput ∧ source.node.step.outputs = step.outputs ∧
      source.node.nodeType = step.nodeType := by
    rw [Node.nodeType, shows.kept]
    exact ⟨rfl, rfl, rfl⟩
  have set : configuration.failures.errorOutputMode ≠ "" := by
    rw [follows.failures]
    decide
  have routed : output = source.node.step.outputs ∧
      source.node.step.onError = some configuration.failures.errorOutputMode := by
    rwa [if_pos (by simp [kept, telling, Workflow.drawing, set])] at mode
  refine ⟨source.node, List.mem_map_of_mem listed, ?_, output, edge, ?_⟩
  · exact Draft.name_ofSteps distinct listed sourcePlace planned recognizable.own
      (Plan.unique_name follows reads guardedPlace)
  · simp [carriesFailures, kept, mayFail, routed, ways]

/-- The failures for which a handler is planned lead to it. -/
theorem retold_handler (distinct : Function.Injective identifiers) {place : Nat} {handler : Step} {placement : Placement} :
    let plan := Plan.ofClassification configuration classification overrides []
    let draft := Draft.ofSteps (Workflow.drawing configuration identifiers) plan.steps
    let workflow := (Workflow.build configuration identifiers name plan.steps).1
    placement ∈ draft.placements → placement.source = some place → plan.steps[place]? = some handler →
      handler ∈ Plan.handlers configuration.failures (Plan.calledSteps configuration classification overrides []) →
        placement.node.Shows configuration.failures.errorOutputMode handler →
          workflow.connections.inboundCount placement.node.id = 1 → Retold configuration workflow placement.node := by
  intro plan draft workflow member origin planned isHandler shows single
  obtain ⟨_, pattern, found, index, guarded, guardedPlace, prone, rfl⟩ := Plan.mem_handlers.mp isHandler
  obtain ⟨source, listed, named, output, edge, carries⟩ :=
    exists_edge_to_handler follows reads distinct member origin planned guardedPlace prone
  have sourceFound : workflow.node? source.id = some source :=
    Workflow.node?_of_mem (Review.nodup_ids_build distinct) listed
  have typed : configuration.failures.failurePattern?.any (·.nodeType = placement.node.nodeType) = true := by
    rw [found, Option.any_some, Node.nodeType, shows.kept]
    exact decide_eq_true rfl
  have failing : failing? configuration workflow placement.node = some source := by
    rw [failing?_of_single single edge rfl sourceFound, if_pos carries]
  refine .handler shows.role typed failing ?_
  rw [named, shows.kept]
  rfl

/-- Everything that is drawn is recognized. -/
theorem retold_build (accepted : Configuration.standard = .ok configuration) (distinct : Function.Injective identifiers) :
    let workflow := (Workflow.build configuration identifiers name
      (Plan.ofClassification configuration classification overrides []).steps).1
    ∀ node ∈ workflow.nodes, Retold configuration workflow node := by
  intro workflow node member
  obtain ⟨placement, listed, rfl⟩ := List.mem_map.mp member
  have inbound := inboundCount_build accepted reads distinct placement.node member
  have traced : (Draft.ofSteps (Workflow.drawing configuration identifiers)
      (Plan.ofClassification configuration classification overrides []).steps).Traced
        (Workflow.drawing configuration identifiers)
        (Plan.ofClassification configuration classification overrides []).steps :=
    Draft.traced_ofSteps distinct _
  cases origin : placement.source with
  | none =>
    obtain ⟨parent, parentListed, branching, output, _, shows, edge⟩ := traced.ends placement listed origin
    have parentMember : parent ∈ workflow.nodes := parentListed
    exact retold_branchEnd follows shows (inbound (by rw [shows.role]; nofun)) edge
      (Workflow.node?_of_mem (Review.nodup_ids_build distinct) parentMember)
      (mayFailType_of_branching follows reads parent parentMember branching)
  | some place =>
    obtain ⟨step, planned, shows⟩ := traced.planned placement listed place origin
    have member := List.mem_of_getElem? planned
    rw [Plan.steps_ofClassification, List.mem_append] at member
    rcases member with called | handler
    · exact retold_called follows reads called shows
    · refine retold_handler follows reads distinct listed origin planned handler shows (inbound ?_)
      obtain ⟨_, pattern, _, index, guarded, _, _, rfl⟩ := Plan.mem_handlers.mp handler
      rw [shows.role]
      nofun

end Standard

end Documentation

namespace Generator

/-- Everything in a generated workflow that runs is recognized. -/
theorem retold_generate {generator : Generator} (accepted : Configuration.standard = .ok generator.configuration)
    {description : String} (reads : generator.configuration.vocabulary.Reads (generator.classify description))
    (distinct : Function.Injective generator.identifiers) {context : GenerationContext} (alone : context.services = []) :
    let workflow := (generator.generate description context).workflow
    ∀ node ∈ workflow.executableNodes, Documentation.Retold generator.configuration workflow node := by
  intro workflow
  have follows := Configuration.follows_of_ofSettings accepted
  obtain ⟨added, notes, noted, stuck, _⟩ :=
    exists_notes_generate generator description context Review.isExecutable_build
  have resolved : ∀ edge ∈ (generator.draw description context).1.connections.edges,
      edge.source ∈ (generator.draw description context).1.nodes.map (·.id) := by
    intro edge member
    have traced : (Draft.ofSteps (Workflow.drawing generator.configuration generator.identifiers)
        (generator.plan description context).steps).Traced
          (Workflow.drawing generator.configuration generator.identifiers)
          (generator.plan description context).steps :=
      Draft.traced_ofSteps distinct _
    obtain ⟨placement, listed, same, _⟩ := traced.sources edge member
    exact same ▸ List.mem_map_of_mem (List.mem_map_of_mem listed)
  have drawn : ∀ node ∈ (generator.draw description context).1.nodes,
      Documentation.Retold generator.configuration (generator.draw description context).1 node := by
    rw [draw, plan, alone]
    exact Documentation.retold_build follows reads accepted distinct
  have same : workflow = (generator.draw description context).1.withNotes added := noted
  rw [same, Review.executableNodes_withNotes stuck]
  intro node member
  exact (drawn node (List.mem_filter.mp member).1).withNotes resolved added

/-- Under the standard settings, with numbered identifiers, every description and all parameters and words of a caller
who names no services: if the text of the generated workflow can be read, notes or not, then annotating what is read
gives notes of the same categories and with the same anchors as annotating the workflow itself, in the same order, and
the same notes about handlers, unless the caller asks for notes. -/
theorem annotate_reload :
    ∃ configuration, Configuration.standard = .ok configuration ∧
      ∀ (stem : String) (drawn : Nat) (documents : Bool) (description : String) (context : GenerationContext),
        context.services = [] → context.overrides.Proper →
          let identifiers := (Identifiers.sequential stem).after drawn
          let generator : Generator := { configuration, identifiers, documents }
          let workflow := (generator.generate description context).workflow
          ∀ width reloaded, Workflow.ofText (workflow.toText width) = .ok reloaded →
            ∀ (own other : Identifiers) (asked : DocumentationContext), asked.notes = [] →
              let notes := (workflow.annotate configuration own asked).documentation.notes
              let again := (reloaded.annotate configuration other asked).documentation.notes
              again.map (fun note => (note.category, note.anchor)) =
                  notes.map (fun note => (note.category, note.anchor)) ∧
                again.filter (·.category = .errorHandling) = notes.filter (·.category = .errorHandling) := by
  obtain ⟨configuration, accepted⟩ := Configuration.exists_standard
  refine ⟨configuration, accepted, fun stem drawn documents description context alone proper => ?_⟩
  intro identifiers generator workflow width reloaded read own other asked quiet notes again
  have follows := Configuration.follows_of_ofSettings accepted
  have reads : configuration.vocabulary.Reads (configuration.vocabulary.classify description) :=
    Vocabulary.reads_classify description
  have distinct : Function.Injective identifiers := ((Identifiers.proper_sequential stem).after drawn).distinct
  have recovered : workflow.recovered = reloaded := recovered_eq_of_ofText follows reads proper read
  have alike : List.Forall₂ Note.Alike (Documentation.ofWorkflow configuration workflow.recovered asked).notes
      (Documentation.ofWorkflow configuration workflow asked).notes :=
    Documentation.alike_notes_recovered (recoverable_generate follows reads)
      (retold_generate accepted reads distinct alone) asked quiet
  rw [recovered] at alike
  simp only [notes, again, Workflow.documentation_annotate]
  exact Note.Alike.forall₂ alike

/-- The workflow of a description that branches and calls a service, with its notes, is annotated again with a purpose. -/
theorem annotate_reload_orders :
    ∃ configuration, Configuration.standard = .ok configuration ∧ orders.services = [] ∧
      let generator : Generator :=
        { configuration, identifiers := (Identifiers.sequential "node").after 7, documents := true }
      let workflow := (generator.generate "If the order is new, send it to Slack" orders).workflow
      ∃ reloaded, Workflow.ofText (workflow.toText 2) = .ok reloaded ∧
        let asked : DocumentationContext := { purpose := "reports orders" }
        let notes := (workflow.annotate configuration (.sequential "note") asked).documentation.notes
        let again := (reloaded.annotate configuration (.sequential "again") asked).documentation.notes
        again.map (fun note => (note.category, note.anchor)) = notes.map (fun note => (note.category, note.anchor)) ∧
          again.filter (·.category = .errorHandling) = notes.filter (·.category = .errorHandling) := by
  obtain ⟨configuration, accepted, same⟩ := annotate_reload
  have follows := Configuration.follows_of_ofSettings accepted
  have reads : configuration.vocabulary.Reads (configuration.vocabulary.classify "If the order is new, send it to Slack") :=
    Vocabulary.reads_classify _
  have fits : ∀ entry ∈ orders.overrides.entries, (Json.object entry.2).Fits 124 := by decide
  refine ⟨configuration, accepted, rfl, _, ofText_toText_generate follows reads fits 2, ?_⟩
  exact same "node" 7 true _ orders rfl (fun entry held => (fits entry held).1) 2 _
    (ofText_toText_generate follows reads fits 2) (.sequential "note") (.sequential "again")
    { purpose := "reports orders" } rfl

end Generator

end WorkflowSynthesis
