import WorkflowSynthesis.Proofs.Review.Drawn
import WorkflowSynthesis.Proofs.Review.Recovery
import WorkflowSynthesis.Proofs.Workflow.Census

/-!
Planning and review on failures. A handler is planned for a step that may fail by its own entry, and the review asks
for one wherever some entry of the type may fail. What the plan guards is found guarded; the review finds nothing else
to guard if entries of one type agree, and ends of branches are not of a type that may fail.
-/

namespace WorkflowSynthesis

/-- Whether entries of one type agree on whether it may fail. -/
def Catalog.Agrees (catalog : Catalog) : Prop :=
  ∀ first ∈ catalog.entries.values, ∀ second ∈ catalog.entries.values,
    first.nodeType = second.nodeType → first.mayFail = second.mayFail

instance (catalog : Catalog) : Decidable catalog.Agrees :=
  inferInstanceAs (Decidable (∀ first ∈ catalog.entries.values, ∀ second ∈ catalog.entries.values,
    first.nodeType = second.nodeType → first.mayFail = second.mayFail))

namespace Catalog

variable {catalog : Catalog}

theorem mayFailType_iff {nodeType : String} : catalog.mayFailType nodeType = true ↔
    ∃ entry ∈ catalog.entries.values, entry.mayFail = true ∧ entry.nodeType = nodeType := by
  simp [mayFailType]

theorem agrees_standard : standard.Agrees := by decide

end Catalog

namespace Plan

theorem mayFail_of_agrees {configuration : Configuration} (checked : configuration.catalog.Checked)
    (agrees : configuration.catalog.Agrees) {classification : Classification} {overrides : Overrides}
    {services : List String} {step : Step} (member : step ∈ calledSteps configuration classification overrides services)
    (risky : configuration.catalog.mayFailType step.nodeType = true) : step.mayFail = true := by
  obtain ⟨request, _, fromText, _, rfl⟩ := exists_request member
  obtain ⟨entry, listed, nodeType, mayFail, _⟩ := exists_entry_stepOf checked request
  obtain ⟨other, held, prone, same⟩ := Catalog.mayFailType_iff.mp risky
  have entries : other.mayFail = entry.mayFail := agrees other held entry listed (same.trans nodeType)
  exact mayFail.trans (entries.symm.trans prone)

end Plan

namespace Review

section Build

variable {configuration : Configuration} {identifiers : Identifiers} {name : String} {steps : List Step}

/-- Without branches every node is that of a step. -/
theorem origin_build_straight (distinct : Function.Injective identifiers)
    (straight : ∀ step ∈ steps, step.isBranching = false) :
    ∀ node ∈ (Workflow.build configuration identifiers name steps).1.nodes,
      ∃ step ∈ steps, step.role ≠ .note ∧ node.step.core = step.core := by
  intro node member
  obtain ⟨placement, listed, rfl⟩ := List.mem_map.mp member
  cases origin : placement.source with
  | some index =>
    obtain ⟨step, place, notNote, same⟩ := Draft.exists_step_ofSteps listed origin
    exact ⟨step, List.mem_of_getElem? place, notNote, same⟩
  | none =>
    have traced : Draft.Traced (Workflow.drawing configuration identifiers) steps
        (Draft.ofSteps (Workflow.drawing configuration identifiers) steps) := Draft.traced_ofSteps distinct steps
    obtain ⟨parent, held, branching, _⟩ := traced.ends placement listed origin
    have held : parent ∈ (Workflow.build configuration identifiers name steps).1.nodes := held
    rcases origin_build parent held with ⟨step, planned, _, same⟩ | ⟨source, outputs, output, same⟩
    · have kept : parent.step.isBranching = step.isBranching := congrArg (·.isBranching) same
      rw [kept, straight step planned] at branching
      cases branching
    · have kept : parent.step.isBranching = false := congrArg (·.isBranching) same
      rw [kept] at branching
      cases branching

theorem exists_node_of_leadsToType {workflow : Workflow} {nodeType : String} {node : Node}
    (leads : leadsToType workflow nodeType node = true) : ∃ target ∈ workflow.nodes, target.nodeType = nodeType := by
  obtain ⟨edge, _, aimed⟩ := List.any_eq_true.mp leads
  obtain ⟨target, found, same⟩ := (Option.any_eq_true _ _).mp aimed
  exact ⟨target, List.mem_of_find?_eq_some found, of_decide_eq_true same⟩

/-- A step of a type that may fail is found unguarded where no step is of the type of handlers, and none branches. -/
theorem errorHandlingIncluded_unguarded {pattern : FailurePattern} (enabled : configuration.failures.enabled = true)
    (found : configuration.failures.failurePattern? = some pattern) (distinct : Function.Injective identifiers)
    (straight : ∀ step ∈ steps, step.isBranching = false) (unhandled : ∀ step ∈ steps, step.nodeType ≠ pattern.nodeType)
    {step : Step} (member : step ∈ steps) (placed : step.role ≠ .note) (notHandler : step.role ≠ .errorHandler)
    (risky : configuration.catalog.mayFailType step.nodeType = true) :
    (errorHandlingIncluded configuration (Workflow.build configuration identifiers name steps).1).passed = false := by
  rw [← Bool.not_eq_true, errorHandlingIncluded_passed_iff]
  intro passes
  obtain ⟨other, alsoFound, guarded⟩ := passes enabled
  obtain rfl : other = pattern := Option.some.inj (alsoFound.symm.trans found)
  obtain ⟨node, listed, shown⟩ : ∃ node ∈ (Workflow.build configuration identifiers name steps).1.nodes,
      node.step.core = step.core := Draft.exists_node _ member placed
  have role : node.role = step.role := congrArg (·.role) shown
  have nodeType : node.nodeType = step.nodeType := congrArg (·.nodeType) shown
  have runs : node ∈ (Workflow.build configuration identifiers name steps).1.executableNodes :=
    List.mem_filter.mpr ⟨listed, isExecutable_build node listed⟩
  have leads := guarded node runs (by rwa [role]) (by rwa [nodeType])
  obtain ⟨target, held, ofType⟩ := exists_node_of_leadsToType leads
  obtain ⟨origin, planned, _, same⟩ := origin_build_straight distinct straight target held
  have targetType : target.nodeType = origin.nodeType := congrArg (·.nodeType) same
  exact unhandled origin planned (targetType.symm.trans ofType)

end Build

end Review

/-- What is planned under an accepted configuration that handles failures has an edge to a handler from every node whose
step may fail. So the review passes it if and only if the other nodes of types that may fail lead to one as well; and
there are none if entries of one type agree, and the type of the ends of branches does not fail. -/
theorem errorHandlingIncluded_of_build {settings : Settings} {engine : PatternEngine} {configuration : Configuration}
    (accepted : Configuration.ofSettings settings engine = .ok configuration)
    (enabled : configuration.failures.enabled = true) (classification : Classification) (overrides : Overrides)
    (services : List String) (name : String) {identifiers : Identifiers} (distinct : Function.Injective identifiers) :
    let plan := Plan.ofClassification configuration classification overrides services
    let workflow := (Workflow.build configuration identifiers name plan.steps).1
    let passed := ((workflow.review configuration plan).verdict? .errorHandlingIncluded).map (·.passed)
    ∃ pattern, configuration.failures.failurePattern? = some pattern ∧
      (∀ node ∈ workflow.nodes, node.role ≠ .errorHandler → node.step.mayFail = true →
        Review.leadsToType workflow pattern.nodeType node = true) ∧
      (passed = some true ↔ ∀ node ∈ workflow.nodes, node.role ≠ .errorHandler → node.step.mayFail = false →
        configuration.catalog.mayFailType node.nodeType = true →
          Review.leadsToType workflow pattern.nodeType node = true) ∧
      (configuration.catalog.Agrees → configuration.catalog.mayFailType Step.passThroughType = false →
        passed = some true) := by
  intro plan workflow passed
  have checked := Configuration.checked_of_ofSettings accepted
  obtain ⟨pattern, found⟩ := Option.isSome_iff_exists.mp checked.failurePattern
  have guarded : ∀ node ∈ workflow.nodes, node.role ≠ .errorHandler → node.step.mayFail = true →
      Review.leadsToType workflow pattern.nodeType node = true :=
    Review.leadsToType_build enabled found distinct
  have verdict : passed = some (Review.errorHandlingIncluded configuration workflow).passed := by
    change Option.map (·.passed) ((workflow.review configuration plan).verdict? .errorHandlingIncluded) = _
    rw [Review.verdict?_review]
    rfl
  refine ⟨pattern, found, guarded, ?_, ?_⟩
  · rw [verdict, Option.some.injEq, Review.errorHandlingIncluded_passed_iff]
    constructor
    · intro passes node member notHandler _ risky
      obtain ⟨other, alsoFound, leads⟩ := passes enabled
      obtain rfl : other = pattern := Option.some.inj (alsoFound.symm.trans found)
      have runs : node ∈ workflow.executableNodes :=
        List.mem_filter.mpr ⟨member, Review.isExecutable_build node member⟩
      exact leads node runs notHandler risky
    · intro others _
      refine ⟨pattern, found, fun node runs notHandler risky => ?_⟩
      have member : node ∈ workflow.nodes := (List.mem_filter.mp runs).1
      cases prone : node.step.mayFail with
      | true => exact guarded node member notHandler prone
      | false => exact others node member notHandler prone risky
  · intro agrees ends
    rw [verdict, Option.some.injEq]
    refine Review.errorHandlingIncluded_passed found (Review.guarded_build enabled found ?_ ends distinct)
    intro step called
    exact Plan.mayFail_of_agrees checked.catalog agrees called

/-- In the standard catalog entries of one type agree, so a plan with a step that may fail is passed. -/
theorem errorHandlingIncluded_of_build_standard :
    ∃ configuration, Configuration.standard = .ok configuration ∧ configuration.failures.enabled = true ∧
      Function.Injective (Identifiers.sequential "node") ∧ configuration.catalog.Agrees ∧
        configuration.catalog.mayFailType Step.passThroughType = false ∧
          let plan := Plan.ofClassification configuration (configuration.vocabulary.classify "send") .empty ["api"]
          let workflow := (Workflow.build configuration (.sequential "node") "Alert" plan.steps).1
          ((workflow.review configuration plan).verdict? .errorHandlingIncluded).map (·.passed) = some true := by
  obtain ⟨configuration, accepted⟩ := Configuration.exists_standard
  have follows := Configuration.follows_of_ofSettings accepted
  have enabled : configuration.failures.enabled = true := by rw [follows.failures]
  have distinct := (Identifiers.proper_sequential "node").distinct
  have agrees : configuration.catalog.Agrees := by
    rw [follows.catalog_standard]
    exact Catalog.agrees_standard
  have ends : configuration.catalog.mayFailType Step.passThroughType = false := by
    rw [follows.catalog_standard]
    exact Step.passThrough_standard.2.2
  obtain ⟨_, _, _, _, passes⟩ := errorHandlingIncluded_of_build accepted enabled
    (configuration.vocabulary.classify "send") .empty ["api"] "Alert" distinct
  exact ⟨configuration, accepted, enabled, distinct, agrees, ends, passes agrees ends⟩

section Disagreement

/-- Calls a service, but is not said to fail as other entries of its type are. -/
def ping : CatalogEntry where
  nodeType := "n8n-nodes-base.httpRequest"
  displayName := "Ping"
  role := .action

def pinging : Settings where
  catalog := { entries := ({} : CatalogSettings).entries.insert "ping" ping }

/-- What an empty description is found to ask for. -/
def unasked : Classification where
  trigger := .manual
  primaryAction := "process"
  actions := []
  triggerKeywords := []
  conditions := []
  dataOps := []
  schedule := none
  entities := {}

theorem exists_pinging : ∃ configuration, Configuration.ofSettings pinging = .ok configuration :=
  Configuration.exists_ofSettings (Catalog.exists_insert (by decide) (by decide)) (by decide)

variable {configuration : Configuration} (accepted : Configuration.ofSettings pinging = .ok configuration)
include accepted

theorem requests_pinging : Plan.requests configuration unasked ["ping"] =
    [Plan.triggerRequest .manual, { key := "ping", role := .action, intent := "call" }] := by
  have words : configuration.vocabulary.Follows {} := (Configuration.follows_of_ofSettings accepted).vocabulary
  have unnamed : configuration.vocabulary.serviceKey? "ping" = none := by
    rw [Vocabulary.serviceKey?, words.standard.services]
    decide
  have lower : Text.lowercase (Text.trim "ping") = "ping" := by
    have trimmed : Text.trim "ping" = "ping" := by decide
    rw [trimmed]
    exact Text.lowercase_small (by simp [Text.smallLetters])
  have service : Plan.serviceRequest? configuration.vocabulary "ping" =
      some { key := "ping", role := .action, intent := "call" } := by
    simp [Plan.serviceRequest?, lower, unnamed]
  have named : Plan.namedActions configuration unasked ["ping"] =
      [{ key := "ping", role := .action, intent := "call" }] := by
    simp [Plan.namedActions, service, unasked, Request.fresh, Trigger.key]
  rw [Plan.requests, Plan.actions, named]
  rfl

/-- Neither of the two steps may fail by its own entry. -/
theorem called_pinging : (Plan.calledSteps configuration unasked .empty ["ping"]).map
      (fun step => (step.mayFail, step.role, step.nodeType)) =
    [(false, .trigger, "n8n-nodes-base.manualTrigger"), (false, .action, "n8n-nodes-base.httpRequest")] := by
  have entries : configuration.catalog.entries = ({} : CatalogSettings).entries.insert "ping" ping :=
    (Configuration.follows_of_ofSettings accepted).entries
  have manual : (configuration.catalog.get? (Plan.triggerRequest .manual).key).map
      (fun entry => (entry.mayFail, entry.role, entry.nodeType)) =
        some (false, .trigger, "n8n-nodes-base.manualTrigger") := by
    rw [Catalog.get?, entries]
    decide
  have own : (configuration.catalog.get? "ping").map (fun entry => (entry.mayFail, entry.role, entry.nodeType)) =
      some (false, .action, "n8n-nodes-base.httpRequest") := by
    rw [Catalog.get?, entries]
    decide
  obtain ⟨trigger, listed, trait⟩ := Option.map_eq_some_iff.mp manual
  obtain ⟨action, held, traits⟩ := Option.map_eq_some_iff.mp own
  rw [Plan.map_calledSteps _ _ _ _ (fun step => (step.mayFail, step.role, step.nodeType)) fun _ _ _ => rfl,
    requests_pinging accepted, ← trait, ← traits]
  simp [Plan.stepOf, listed, held, Step.ofEntry]

/-- So there are no handlers, and the two steps are all that is planned. -/
theorem steps_pinging : (Plan.ofClassification configuration unasked .empty ["ping"]).steps.map
      (fun step => (step.role, step.nodeType)) =
    [(.trigger, "n8n-nodes-base.manualTrigger"), (.action, "n8n-nodes-base.httpRequest")] := by
  have called := called_pinging accepted
  have unhandled : Plan.handlers configuration.failures (Plan.calledSteps configuration unasked .empty ["ping"]) = [] := by
    refine List.eq_nil_iff_forall_not_mem.mpr fun handler planned => ?_
    obtain ⟨_, _, _, index, step, place, prone, _⟩ := Plan.mem_handlers.mp planned
    have listed := List.mem_map_of_mem (f := fun step => (step.mayFail, step.role, step.nodeType))
      (List.mem_of_getElem? place)
    simp [called, prone] at listed
  rw [Plan.steps_ofClassification, unhandled, List.append_nil]
  have kinds := congrArg (List.map Prod.snd) called
  rwa [List.map_map] at kinds

omit accepted in
/-- The review does not pass a plan for a service whose entry is of a type that may fail, but does not say so itself. -/
theorem errorHandlingIncluded_pinging :
    ∃ configuration, Configuration.ofSettings pinging = .ok configuration ∧ configuration.failures.enabled = true ∧
      Function.Injective (Identifiers.sequential "node") ∧
        let plan := Plan.ofClassification configuration unasked .empty ["ping"]
        let workflow := (Workflow.build configuration (.sequential "node") "Generated Workflow" plan.steps).1
        ((workflow.review configuration plan).verdict? .errorHandlingIncluded).map (·.passed) = some false := by
  obtain ⟨configuration, accepted⟩ := exists_pinging
  have follows := Configuration.follows_of_ofSettings accepted
  have enabled : configuration.failures.enabled = true := by
    rw [follows.failures]
    rfl
  have distinct := (Identifiers.proper_sequential "node").distinct
  obtain ⟨pattern, found, handles⟩ : ∃ pattern, configuration.failures.failurePattern? = some pattern ∧
      pattern.nodeType = Step.passThroughType := by
    rw [follows.failures]
    exact Option.map_eq_some_iff.mp (by decide)
  refine ⟨configuration, accepted, enabled, distinct, ?_⟩
  intro plan workflow
  rw [Review.verdict?_review, Option.map_some, Option.some.injEq]
  have kinds : ∀ step ∈ plan.steps, (step.role, step.nodeType) ∈
      [(Role.trigger, "n8n-nodes-base.manualTrigger"), (.action, "n8n-nodes-base.httpRequest")] := fun step member =>
    steps_pinging accepted ▸ List.mem_map_of_mem member
  obtain ⟨step, member, same⟩ : ∃ step ∈ plan.steps,
      (step.role, step.nodeType) = (.action, "n8n-nodes-base.httpRequest") := by
    refine List.mem_map.mp ?_
    rw [steps_pinging accepted]
    exact List.mem_cons_of_mem _ List.mem_cons_self
  obtain ⟨acts, ofType⟩ := Prod.mk.inj same
  have risky : configuration.catalog.mayFailType step.nodeType = true := by
    rw [ofType, Catalog.mayFailType, follows.entries]
    decide
  refine Review.errorHandlingIncluded_unguarded enabled found distinct ?_ ?_ member ?_ ?_ risky
  · intro other planned
    have roles : other.role ∈ [Role.trigger, .action] := List.mem_map_of_mem (f := Prod.fst) (kinds other planned)
    have straight : other.role ≠ .condition := by
      rintro same
      simp [same] at roles
    simp [Step.isBranching, straight]
  · intro other planned
    have types : other.nodeType ∈ ["n8n-nodes-base.manualTrigger", "n8n-nodes-base.httpRequest"] :=
      List.mem_map_of_mem (f := Prod.snd) (kinds other planned)
    rw [handles]
    exact (by decide : ∀ nodeType ∈ ["n8n-nodes-base.manualTrigger", "n8n-nodes-base.httpRequest"],
      nodeType ≠ Step.passThroughType) _ types
  · rw [acts]
    decide
  · rw [acts]
    decide

end Disagreement

end WorkflowSynthesis
