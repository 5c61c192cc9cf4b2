import WorkflowSynthesis.Proofs.Notes.Contents
import WorkflowSynthesis.Proofs.Review.Recovery

/-!
The notes about a workflow that was written and read. Roles, keys, services and intents are gone then, so handlers are
told from their type and from the edge that failures take to them, and services from the entries of types. The notes
come out alike if this leads to the same: then they have the same categories and anchors, and those about handlers say
the same.
-/

namespace WorkflowSynthesis

/-- Whether two notes have one category and one anchor, and are the same if they are about a handler. -/
structure Note.Alike (first second : Note) : Prop where
  category : first.category = second.category
  anchor : first.anchor = second.anchor
  handler : second.category = .errorHandling → first = second

theorem Note.Alike.refl (note : Note) : note.Alike note := ⟨rfl, rfl, fun _ => rfl⟩

/-- Notes that are alike one by one have the same categories and anchors, and those about handlers are the same. -/
theorem Note.Alike.forall₂ {notes others : List Note} (alike : List.Forall₂ Alike notes others) :
    notes.map (fun note => (note.category, note.anchor)) = others.map (fun note => (note.category, note.anchor)) ∧
      notes.filter (·.category = .errorHandling) = others.filter (·.category = .errorHandling) := by
  induction alike with
  | nil => exact ⟨rfl, rfl⟩
  | cons first _ ih =>
    refine ⟨?_, ?_⟩
    · rw [List.map_cons, List.map_cons, first.category, first.anchor, ih.1]
    · rw [List.filter_cons, List.filter_cons, first.category, ih.2]
      split
      · next handler => rw [first.handler (of_decide_eq_true handler)]
      · rfl

/-- Whether a service is known that a step calls, or at least that it may fail or needs credentials. -/
def Step.callsService (catalog : Catalog) (step : Step) : Bool :=
  step.service.isSome || (catalog.entryOf? step.key step.nodeType).any (·.usesService) || step.mayFail ||
    !step.credentials.entries.isEmpty

namespace Documentation

variable {configuration : Configuration} {workflow : Workflow} {node : Node}

theorem isSome_service? (node : Node) :
    (service? configuration node).isSome = node.step.callsService configuration.catalog := by
  have itself : (if node.step.mayFail || !node.step.credentials.entries.isEmpty then some node.name else none).isSome =
      (node.step.mayFail || !node.step.credentials.entries.isEmpty) := by
    rw [Bool.eq_iff_iff, Option.isSome_ite]
  rw [service?, Option.isSome_or, Option.isSome_or, Option.isSome_map, Option.isSome_filter, itself, ← Bool.or_assoc]
  rfl

/-- The first node whose failures an edge carries to the given one. -/
def failing? (configuration : Configuration) (workflow : Workflow) (node : Node) : Option Node :=
  (workflow.connections.edges.filter (·.target = node.id)).findSome? fun edge =>
    (workflow.node? edge.source).filter fun source => carriesFailures configuration source edge.output

theorem guarded?_eq : guarded? configuration workflow node =
    if isHandlerLike configuration node then failing? configuration workflow node else none := rfl

theorem failing?_recovered (node : Node) :
    failing? configuration workflow.recovered node.recovered =
      (failing? configuration workflow node).map Node.recovered := by
  unfold failing?
  rw [List.map_findSome?]
  refine congrArg (fun found => List.findSome? found _) (funext fun edge => ?_)
  rw [Review.node?_recovered, Option.filter_map]
  rfl

/-- Where sources of edges are found without notes, the notes do not matter. -/
theorem failing?_withNotes (known : ∀ edge ∈ workflow.connections.edges, edge.source ∈ workflow.nodes.map (·.id))
    (notes : List Node) (node : Node) :
    failing? configuration (workflow.withNotes notes) node = failing? configuration workflow node := by
  unfold failing?
  rw [← List.head?_filterMap, ← List.head?_filterMap]
  refine congrArg List.head? (List.filterMap_congr fun edge member => ?_)
  obtain ⟨source, listed, same⟩ := List.mem_map.mp (known edge (List.mem_filter.mp member).1)
  have present : (workflow.nodes.find? (·.id = edge.source)).isSome :=
    List.find?_isSome.mpr ⟨source, listed, by simpa using same⟩
  have found : (workflow.withNotes notes).node? edge.source = workflow.node? edge.source := by
    rw [Workflow.node?, Workflow.node?, Workflow.withNotes, List.find?_append, Option.or_of_isSome present]
  rw [found]

/-- To a node that one edge leads to, failures come by that edge or not at all. -/
theorem failing?_of_single (single : workflow.connections.inboundCount node.id = 1) {edge : Edge}
    (member : edge ∈ workflow.connections.edges) (target : edge.target = node.id) {source : Node}
    (found : workflow.node? edge.source = some source) :
    failing? configuration workflow node = if carriesFailures configuration source edge.output then some source else none := by
  obtain ⟨only, inbound⟩ := List.length_eq_one_iff.mp single
  have listed : edge ∈ workflow.connections.edges.filter (·.target = node.id) :=
    List.mem_filter.mpr ⟨member, decide_eq_true target⟩
  rw [inbound, List.mem_singleton] at listed
  unfold failing?
  rw [inbound, ← listed, List.findSome?_singleton, found, Option.filter_some]

/-- Nodes whose notes come out alike. A handler has the type of the failure pattern, and the failures for which it is
meant are those that lead to it. Other nodes have the role that their type suggests, no failures lead to them if it is
the type of the failure pattern, and by their type it can be told whether they call a service. -/
inductive Retold (configuration : Configuration) (workflow : Workflow) (node : Node) : Prop
  | handler {source : Node} (handles : node.role = .errorHandler)
      (typed : configuration.failures.failurePattern?.any (·.nodeType = node.nodeType) = true)
      (failing : failing? configuration workflow node = some source) (intent : node.step.intent = source.name ++ " fails")
  | other (role : node.role = Role.ofNodeType node.nodeType) (plain : isHandlerLike configuration node = false)
      (calm : configuration.failures.failurePattern?.any (·.nodeType = node.nodeType) = true →
        failing? configuration workflow node = none)
      (service : node.step.reloaded.callsService configuration.catalog = node.step.callsService configuration.catalog)

theorem Retold.withNotes (retold : Retold configuration workflow node)
    (known : ∀ edge ∈ workflow.connections.edges, edge.source ∈ workflow.nodes.map (·.id)) (notes : List Node) :
    Retold configuration (workflow.withNotes notes) node := by
  cases retold with
  | handler handles typed failing intent =>
    exact .handler handles typed ((failing?_withNotes known notes node).trans failing) intent
  | other role plain calm service =>
    exact .other role plain (fun typed => (failing?_withNotes known notes node).trans (calm typed)) service

theorem isHandlerLike_recovered (node : Node) : isHandlerLike configuration node.recovered =
    configuration.failures.failurePattern?.any (·.nodeType = node.nodeType) := by
  have role : node.recovered.role ≠ .errorHandler := Role.ofNodeType_ne_errorHandler node.nodeType
  have key : node.recovered.step.key = "" := rfl
  rw [isHandlerLike, decide_eq_false role, decide_eq_true key, Bool.false_or, Bool.true_and]
  rfl

/-- The note about a handler comes out the same. -/
theorem nodeNote?_recovered_handler {source : Node} (handles : node.role = .errorHandler)
    (typed : configuration.failures.failurePattern?.any (·.nodeType = node.nodeType) = true)
    (failing : failing? configuration workflow node = some source) (intent : node.step.intent = source.name ++ " fails") :
    nodeNote? configuration workflow.recovered node.recovered = nodeNote? configuration workflow node := by
  have like : isHandlerLike configuration node = true := by rw [isHandlerLike, decide_eq_true handles, Bool.true_or]
  have guarded : guarded? configuration workflow node = some source := by rw [guarded?_eq, if_pos like, failing]
  have guardedRecovered : guarded? configuration workflow.recovered node.recovered = some source.recovered := by
    rw [guarded?_eq, isHandlerLike_recovered, if_pos typed, failing?_recovered, failing, Option.map_some]
  -- The intent that was written for the handler is what is made up for a handler without one.
  have told : source.name ++ " fails" ≠ "" := by simp
  have scenario : scenario node (some source) = source.name ++ " fails" := by
    rw [Documentation.scenario, intent, if_neg told]
  have scenarioRecovered : Documentation.scenario node.recovered (some source.recovered) = source.name ++ " fails" := rfl
  rw [nodeNote?, nodeNote?, subject?, subject?, guarded, guardedRecovered]
  simp only [Option.isSome_some, if_true, scenario, scenarioRecovered]
  rfl

/-- The note about another node has the same category and anchor. -/
theorem alike_nodeNote?_other (role : node.role = Role.ofNodeType node.nodeType)
    (plain : isHandlerLike configuration node = false)
    (calm : configuration.failures.failurePattern?.any (·.nodeType = node.nodeType) = true →
      failing? configuration workflow node = none)
    (service : node.step.reloaded.callsService configuration.catalog = node.step.callsService configuration.catalog) :
    Option.Rel Note.Alike (nodeNote? configuration workflow.recovered node.recovered)
      (nodeNote? configuration workflow node) := by
  have guarded : guarded? configuration workflow node = none := by rw [guarded?_eq, plain]; rfl
  have guardedRecovered : guarded? configuration workflow.recovered node.recovered = none := by
    rw [guarded?_eq, isHandlerLike_recovered, failing?_recovered]
    split
    · next typed => rw [calm typed, Option.map_none]
    · rfl
  have sameRole : node.recovered.role = node.role := role.symm
  have sameService : (service? configuration node.recovered).isSome = (service? configuration node).isSome := by
    rw [isSome_service?, isSome_service?]
    exact service
  rw [nodeNote?, nodeNote?, subject?, subject?, guarded, guardedRecovered, sameRole]
  simp only [Option.isSome_none, Bool.false_eq_true, if_false]
  cases kind : node.role with
  | trigger | note => exact .none
  | condition | dataOp => exact .some ⟨rfl, rfl, fun handler => by cases handler⟩
  | errorHandler => exact absurd (role.symm.trans kind) (Role.ofNodeType_ne_errorHandler _)
  | action =>
    cases known : service? configuration node with
    | none =>
      rw [known, Option.isSome_none, Option.isSome_eq_false_iff, Option.isNone_iff_eq_none] at sameService
      rw [sameService]
      exact .none
    | some name =>
      rw [known, Option.isSome_some, Option.isSome_iff_exists] at sameService
      obtain ⟨other, found⟩ := sameService
      rw [found]
      exact .some ⟨rfl, rfl, fun handler => by cases handler⟩

theorem Retold.alike (retold : Retold configuration workflow node) :
    Option.Rel Note.Alike (nodeNote? configuration workflow.recovered node.recovered)
      (nodeNote? configuration workflow node) := by
  cases retold with
  | handler handles typed failing intent =>
    rw [nodeNote?_recovered_handler handles typed failing intent]
    cases nodeNote? configuration workflow node with
    | none => exact .none
    | some note => exact .some (.refl note)
  | other role plain calm service => exact alike_nodeNote?_other role plain calm service

/-- Without notes of the caller, the notes about a workflow come out alike if those about its nodes do. -/
theorem alike_notes_recovered (recoverable : ∀ node ∈ workflow.nodes, node.step.Recoverable configuration.catalog)
    (retold : ∀ node ∈ workflow.executableNodes, Retold configuration workflow node) (context : DocumentationContext)
    (alone : context.notes = []) :
    List.Forall₂ Note.Alike (ofWorkflow configuration workflow.recovered context).notes
      (ofWorkflow configuration workflow context).notes := by
  have running := Review.executableNodes_recovered recoverable
  have trigger : workflow.recovered.trigger?.map (·.id) = workflow.trigger?.map (·.id) := by
    rw [Review.trigger?_recovered recoverable, Option.map_map]
    rfl
  have start : (startNote configuration workflow.recovered context).Alike (startNote configuration workflow context) :=
    ⟨rfl, trigger, fun handler => by cases handler⟩
  have nodes : List.Forall₂ Note.Alike
      (workflow.executableNodes.filterMap fun node => nodeNote? configuration workflow.recovered node.recovered)
      (workflow.executableNodes.filterMap (nodeNote? configuration workflow)) := by
    refine List.rel_filterMap (R := fun first second => first = second ∧ first ∈ workflow.executableNodes) ?_
      (List.forall₂_same.mpr fun node member => ⟨rfl, member⟩)
    rintro node _ ⟨rfl, member⟩
    exact (retold node member).alike
  rw [notes_ofWorkflow, notes_ofWorkflow, alone, running, List.filterMap_map]
  simp only [List.map_nil, List.append_nil]
  exact .cons start nodes

end Documentation

end WorkflowSynthesis
