import Mathlib.Order.WellFoundedSet
import WorkflowSynthesis.Proofs.Review.Drawn
import WorkflowSynthesis.Proofs.Workflow.Tree

/-!
What it means that every node is led to. The review only looks for one edge into each node; where no path returns to
where it began, this is as much as a path from a trigger to each node.
-/

namespace WorkflowSynthesis

namespace Workflow

/-- A workflow whose nodes have identifiers of their own, whose edges join nodes that run, and in which no path returns
to where it began. -/
structure Acyclic (workflow : Workflow) : Prop where
  distinct : (workflow.nodes.map (·.id)).Nodup
  joined : ∀ edge ∈ workflow.connections.edges,
    (∃ source ∈ workflow.executableNodes, source.id = edge.source) ∧
      ∃ target ∈ workflow.executableNodes, target.id = edge.target
  oneWay : ∀ id, ¬Relation.TransGen workflow.connections.Leads id id

/-- Whether a node is a trigger, or a path leads to it from one. -/
def Started (workflow : Workflow) (node : Node) : Prop :=
  node.role = .trigger ∨ ∃ trigger ∈ workflow.nodes, trigger.role = .trigger ∧
    workflow.connections.Reaches trigger.id node.id

namespace Acyclic

variable {workflow : Workflow} (acyclic : workflow.Acyclic)
include acyclic

/-- Backwards along edges every walk among the finitely many nodes ends. -/
theorem wellFoundedOn : {id | id ∈ workflow.executableNodes.map (·.id)}.WellFoundedOn
    (Relation.TransGen workflow.connections.Leads) := by
  have strict : IsStrictOrder String (Relation.TransGen workflow.connections.Leads) := {
    irrefl := acyclic.oneWay
    trans := fun _ _ _ first second => first.trans second }
  exact (List.finite_toSet _).wellFoundedOn

/-- What a node has if all nodes with an edge to it have it, all nodes that run have. -/
theorem induction {holds : Node → Prop}
    (step : ∀ node ∈ workflow.executableNodes,
      (∀ source ∈ workflow.executableNodes, workflow.connections.Leads source.id node.id → holds source) → holds node) :
    ∀ node ∈ workflow.executableNodes, holds node := by
  intro node member
  refine acyclic.wellFoundedOn.induction (P := fun id => ∀ node ∈ workflow.executableNodes, node.id = id → holds node)
    (List.mem_map_of_mem member) ?_ node member rfl
  rintro _ _ before node member rfl
  refine step node member fun source listed leads => ?_
  exact before source.id (List.mem_map_of_mem listed) (.single leads) source listed rfl

/-- If an edge leads to every node that runs and is no trigger, all of them are reached from triggers. -/
theorem started_of_led
    (led : ∀ node ∈ workflow.executableNodes, node.role = .trigger ∨
      ∃ edge ∈ workflow.connections.edges, edge.target = node.id) :
    ∀ node ∈ workflow.executableNodes, workflow.Started node := by
  refine acyclic.induction fun node member before => ?_
  refine (led node member).imp_right ?_
  rintro ⟨edge, leads, target⟩
  obtain ⟨⟨source, sourceListed, sourceId⟩, _⟩ := acyclic.joined edge leads
  have leadsHere : workflow.connections.Leads source.id node.id := ⟨edge, leads, sourceId.symm, target⟩
  rcases before source sourceListed leadsHere with isTrigger | ⟨trigger, listed, isTrigger, path⟩
  · exact ⟨source, (List.mem_filter.mp sourceListed).1, isTrigger, .single leadsHere⟩
  · exact ⟨trigger, listed, isTrigger, .tail path leadsHere⟩

/-- A path to a node that is no trigger ends with an edge to it. -/
theorem led_of_started {node : Node} (member : node ∈ workflow.nodes) (started : workflow.Started node) :
    node.role = .trigger ∨ ∃ edge ∈ workflow.connections.edges, edge.target = node.id := by
  rcases started with isTrigger | ⟨trigger, listed, isTrigger, path⟩
  · exact .inl isTrigger
  · rcases Relation.ReflTransGen.cases_tail path with same | ⟨_, _, edge, leads, _, target⟩
    · have itself : node = trigger := List.inj_on_of_nodup_map acyclic.distinct member listed same
      exact .inl (itself ▸ isTrigger)
    · exact .inr ⟨edge, leads, target⟩

theorem ensureAllNodesConnected_iff :
    (Review.ensureAllNodesConnected workflow).passed = true ↔
      ∀ node ∈ workflow.executableNodes, workflow.Started node := by
  rw [Review.ensureAllNodesConnected_passed]
  refine ⟨acyclic.started_of_led, fun started node member => ?_⟩
  exact acyclic.led_of_started (List.mem_filter.mp member).1 (started node member)

end Acyclic

/-- Drawings are acyclic. -/
theorem acyclic_build {identifiers : Identifiers} (distinct : Function.Injective identifiers)
    (configuration : Configuration) (name : String) (steps : List Step) :
    (build configuration identifiers name steps).1.Acyclic := by
  have laid : (Draft.ofSteps (drawing configuration identifiers) steps).Laid (drawing configuration identifiers) :=
    Draft.laid_ofSteps distinct steps
  have running : ∀ node ∈ (build configuration identifiers name steps).1.nodes,
      node ∈ (build configuration identifiers name steps).1.executableNodes := fun node member =>
    List.mem_filter.mpr ⟨member, Review.isExecutable_build node member⟩
  refine ⟨Review.nodup_ids_build distinct, fun edge member => ?_, laid.acyclic distinct⟩
  obtain ⟨source, present, target, alsoPresent, sourceId, targetId, _⟩ := laid.exists_ends member
  exact ⟨⟨source, running source present, sourceId⟩, target, running target alsoPresent, targetId⟩

/-- Of an acyclic workflow the review says that all nodes are connected exactly if every node that runs is a trigger or
reached from one by following edges. Drawings are acyclic. -/
theorem review_reachability (configuration : Configuration) :
    (∀ (workflow : Workflow) (plan : Option Plan), workflow.Acyclic →
      (((workflow.review configuration plan).verdict? .ensureAllNodesConnected).map (·.passed) = some true ↔
        ∀ node ∈ workflow.executableNodes, node.role = .trigger ∨
          ∃ trigger ∈ workflow.nodes, trigger.role = .trigger ∧ workflow.connections.Reaches trigger.id node.id)) ∧
      ∀ (identifiers : Identifiers) (name : String) (steps : List Step), Function.Injective identifiers →
        (build configuration identifiers name steps).1.Acyclic := by
  refine ⟨fun workflow plan acyclic => ?_, fun identifiers name steps distinct => ?_⟩
  · rw [Review.verdict?_review, Option.map_some, Option.some_inj]
    exact acyclic.ensureAllNodesConnected_iff
  · exact acyclic_build distinct configuration name steps

/-- A survey that starts in two ways: each of its nodes is reached from one of its triggers. -/
theorem review_reachability_survey :
    ∃ configuration, Configuration.standard = .ok configuration ∧ Function.Injective (Identifiers.sequential "node") ∧
      let workflow := (build configuration (.sequential "node") "Survey"
        (survey ++ [{ name := "Webhook", nodeType := "n8n-nodes-base.webhook", role := .trigger }])).1
      workflow.Acyclic ∧ workflow.executableNodes.length = 9 ∧ ∀ node ∈ workflow.executableNodes, workflow.Started node := by
  obtain ⟨configuration, accepted⟩ := Configuration.exists_standard
  have distinct := (Identifiers.proper_sequential "node").distinct
  obtain ⟨decided, drawn⟩ := review_reachability configuration
  refine ⟨configuration, accepted, distinct, ?_⟩
  intro workflow
  have acyclic : workflow.Acyclic := drawn _ "Survey" _ distinct
  have size : workflow.executableNodes.length = 9 := by
    have all : workflow.executableNodes = workflow.nodes := List.filter_eq_self.mpr Review.isExecutable_build
    exact (congrArg List.length all).trans (census_build distinct configuration "Survey" _).2.1
  refine ⟨acyclic, size, (decided workflow none acyclic).mp ?_⟩
  rw [Review.verdict?_review, Option.map_some, Option.some_inj]
  have webhook : { name := "Webhook", nodeType := "n8n-nodes-base.webhook", role := .trigger : Step } ∈ survey ++
      [{ name := "Webhook", nodeType := "n8n-nodes-base.webhook", role := .trigger }] :=
    List.mem_append_right _ (List.mem_singleton_self _)
  exact Review.ensureAllNodesConnected_build webhook rfl

end Workflow

end WorkflowSynthesis
