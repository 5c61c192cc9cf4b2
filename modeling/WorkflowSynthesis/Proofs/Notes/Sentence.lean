import WorkflowSynthesis.Proofs.Notes.Outcome
import WorkflowSynthesis.Proofs.Notes.Reloading
import WorkflowSynthesis.Proofs.Review.Guarding

/-!
The sentence about a generated workflow, under the standard settings and without services of the caller. At first it
tells that the actions of the plan are completed, in their order. Once the workflow was written and read, the ends of
its branches and its handlers are told as well, if it has any.
-/

namespace WorkflowSynthesis

/-- The name of an action. -/
def Step.actionName? (step : Step) : Option String := if step.role = .action then some step.name else none

/-- The actions of a plan are placed in their order. -/
theorem PlanParts.filter_action_order (steps : List Step) :
    (ofSteps steps).order.filter (·.2.role = .action) = (ofSteps steps).actions := by
  have dropped : ∀ {parts : List (Nat × Step)}, (∀ part ∈ parts, part.2.role ≠ .action) →
      parts.filter (·.2.role = .action) = [] := fun others =>
    List.filter_eq_nil_iff.mpr fun part member => by simpa using others part member
  have all : ∀ {parts : List (Nat × Step)}, (∀ part ∈ parts, part ∈ (ofSteps steps).actions) →
      parts.filter (·.2.role = .action) = parts := fun each =>
    List.filter_eq_self.mpr fun part member => (List.mem_filter.mp (each part member)).2
  have triggers : ∀ part ∈ (ofSteps steps).triggers, part.2.role ≠ .action := by
    intro part member acts
    simpa [acts] using (List.mem_filter.mp member).2
  have inline : ∀ part ∈ (ofSteps steps).inline, part.2.role ≠ .action := by
    intro part member acts
    simpa [acts] using (List.mem_filter.mp member).2
  have branching : ∀ part ∈ (ofSteps steps).branching, part.2.role ≠ .action := by
    intro part member acts
    simpa [acts, Step.isBranching] using (List.mem_filter.mp member).2
  have handlers : ∀ part ∈ (ofSteps steps).handlers, part.2.role ≠ .action := by
    intro part member acts
    simpa [acts] using (List.mem_filter.mp member).2
  rw [order, chain, List.filter_append, List.filter_append, List.filter_append, List.filter_append, List.filter_append,
    List.filter_append, dropped fun part member => triggers part (List.mem_of_mem_take member),
    dropped fun part member => triggers part (List.mem_of_mem_drop member), dropped inline, dropped branching, dropped handlers,
    all fun part => List.mem_of_mem_take, all fun part => List.mem_of_mem_drop]
  simp only [List.nil_append, List.append_nil]
  exact List.take_append_drop 1 _

/-- So their names come in that order, too. -/
theorem PlanParts.filterMap_actionName?_order (steps : List Step) :
    ((ofSteps steps).order.filterMap fun part => part.2.actionName?) =
      (steps.filter (·.role = .action)).map (·.name) := by
  rw [← map_filter_numbered steps (·.role = .action) (·.name)]
  change _ = (ofSteps steps).actions.map (·.2.name)
  rw [← filter_action_order, ← List.filterMap_eq_map, List.filterMap_filter]
  refine List.filterMap_congr fun part _ => ?_
  by_cases acts : part.2.role = .action <;> simp [Step.actionName?, acts]

namespace Plan

variable {configuration : Configuration} {classification : Classification} {overrides : Overrides} {step : Step}

/-- Everything in a plan but handlers is called for, at the same place. -/
theorem getElem?_called {services : List String} {index : Nat}
    (place : (ofClassification configuration classification overrides services).steps[index]? = some step)
    (other : step.role ≠ .errorHandler) :
    (calledSteps configuration classification overrides services)[index]? = some step := by
  rw [steps_ofClassification, List.getElem?_append] at place
  split at place
  · exact place
  · obtain ⟨_, _, _, _, _, _, _, rfl⟩ := mem_handlers.mp (List.mem_of_getElem? place)
    exact absurd rfl other

variable (follows : configuration.Follows {}) (reads : configuration.vocabulary.Reads classification)
include follows reads

/-- No step of a plan has the key of the ends of branches. -/
theorem key_ne_branchEnd
    (member : step ∈ (ofClassification configuration classification overrides []).steps) : step.key ≠ "branch_end" := by
  have listed : ∀ role ∈ placedRoles, ∀ key ∈ standardKeys role, (standardStep role key).key ≠ "branch_end" := by decide
  rw [steps_ofClassification, List.mem_append] at member
  rcases member with called | handler
  · obtain ⟨request, asked, fromText, _, rfl⟩ := exists_request called
    obtain ⟨placed, known⟩ := asked_of_mem follows reads asked
    rw [follows.catalog_standard, stepOf_standard]
    exact listed request.role placed request.key known
  · obtain ⟨_, _, _, _, _, _, _, rfl⟩ := mem_handlers.mp handler
    show ("error_handler" : String) ≠ "branch_end"
    decide

/-- The trigger of a plan is that of the classification. -/
theorem nodeType_of_trigger (member : step ∈ (ofClassification configuration classification overrides []).steps)
    (isTrigger : step.role = .trigger) : step.nodeType = (standardStep .trigger classification.trigger.key).nodeType := by
  have others : ∀ role ∈ [Role.action, .condition, .dataOp], ∀ key ∈ standardKeys role,
      (standardStep role key).role ≠ .trigger := by decide
  rw [steps_ofClassification, List.mem_append] at member
  rcases member with called | handler
  · obtain ⟨request, asked, fromText, _, rfl⟩ := exists_request called
    rw [follows.catalog_standard, stepOf_standard] at isTrigger ⊢
    have single : ∀ {role : Role} {requests : List Request}, role ∈ [Role.action, .condition, .dataOp] →
        Asked role requests → request ∉ requests := by
      intro role requests placed known listed
      obtain ⟨rfl, held⟩ := known.known request listed
      exact others request.role placed request.key held isTrigger
    rw [requests_eq, List.mem_cons, List.mem_append, List.mem_append] at asked
    rcases asked with rfl | (action | condition) | dataOp
    · rfl
    · exact absurd action (single (by decide) (asked_actions follows reads))
    · exact absurd condition (single (by decide) (asked_conditionRequests follows reads []))
    · exact absurd dataOp (single (by decide) (asked_dataOpRequests follows reads []))
  · obtain ⟨_, _, _, _, _, _, _, rfl⟩ := mem_handlers.mp handler
    cases isTrigger

end Plan

/-- Some node ends a branch if some step branches. -/
theorem Draft.exists_branchEnd {drawing : Drawing} (distinct : Function.Injective drawing.identifiers) {steps : List Step}
    (branches : ∃ step ∈ steps, step.isBranching = true) :
    ∃ node ∈ (ofSteps drawing steps).nodes, node.role = .action ∧ node.step.key = "branch_end" := by
  obtain ⟨drawn, ends, perm, shows, ended⟩ := exists_perm_ofSteps distinct steps
  obtain ⟨step, planned, branching⟩ := branches
  have ways : 1 ≤ step.outputs - 1 := Nat.le_sub_of_add_le (Step.isBranching_iff.mp branching).2
  have further : step.outputs - 1 ≤ ((steps.filter Step.isBranching).map (·.outputs - 1)).sum :=
    List.le_sum_of_mem (List.mem_map_of_mem (f := (·.outputs - 1)) (List.mem_filter.mpr ⟨planned, branching⟩))
  have size := length_nodes_ofSteps drawing steps
  rw [perm.length_eq, List.length_append, shows.length_eq] at size
  obtain ⟨node, member⟩ := List.exists_mem_of_length_pos (l := ends) (by omega)
  obtain ⟨⟨parent, _, _, output, _, shown, _⟩, _⟩ := ended node member
  have key : node.step.key = "branch_end" := by
    rw [shown.kept]
    rfl
  exact ⟨node, perm.mem_iff.mpr (List.mem_append_right _ member), shown.role, key⟩

namespace Documentation

section Build

variable {configuration : Configuration} {identifiers : Identifiers} {name : String}
variable {classification : Classification} {overrides : Overrides}
variable (follows : configuration.Follows {}) (reads : configuration.vocabulary.Reads classification)
include follows reads

omit follows in
/-- The trigger of a drawing is found to be that of the classification. -/
theorem inferTrigger?_build (accepted : Configuration.standard = .ok configuration) :
    inferTrigger? configuration (Workflow.build configuration identifiers name
      (Plan.ofClassification configuration classification overrides []).steps).1 = some classification.trigger := by
  have follows := Configuration.follows_of_ofSettings accepted
  obtain ⟨step, planned, isTrigger⟩ := Review.exists_step_standard accepted reads overrides (.inl rfl)
  obtain ⟨placed, listed, starts⟩ : ∃ node ∈ (Workflow.build configuration identifiers name
      (Plan.ofClassification configuration classification overrides []).steps).1.nodes, node.role = step.role :=
    Review.exists_node_build planned (by simp [isTrigger])
  obtain ⟨node, found⟩ := Option.isSome_iff_exists.mp
    (List.find?_isSome (p := (·.role = .trigger)) |>.mpr ⟨placed, listed, decide_eq_true (starts.trans isTrigger)⟩)
  have nodeType : node.nodeType = (Plan.standardStep .trigger classification.trigger.key).nodeType := by
    have role : node.role = .trigger := by simpa using List.find?_some found
    rcases Review.origin_build node (List.mem_of_find?_eq_some found) with ⟨origin, held, _, same⟩ | ⟨_, _, _, same⟩
    · have sameType : node.nodeType = origin.nodeType := congrArg (·.nodeType) same
      have sameRole : node.role = origin.role := congrArg (·.role) same
      rw [sameType, Plan.nodeType_of_trigger follows reads held (sameRole.symm.trans role)]
    · have action : node.role = .action := congrArg (·.role) same
      exact absurd (action.symm.trans role) (by decide)
  have types : ∀ trigger ∈ Trigger.all, (Trigger.all.find? fun other => (Catalog.standard.get? other.key).any
      (·.nodeType = (Plan.standardStep .trigger trigger.key).nodeType)) = some trigger := by decide
  have first : (Workflow.build configuration identifiers name
      (Plan.ofClassification configuration classification overrides []).steps).1.trigger? = some node := found
  rw [inferTrigger?, first, follows.catalog_standard, Option.bind_eq_bind, Option.bind_some, nodeType]
  exact types _ classification.trigger.mem_all

/-- A node is told if and only if it is that of an action of the plan, and then by the name of this action. -/
theorem told_ofSteps (distinct : Function.Injective identifiers) {placement : Placement} :
    let plan := Plan.ofClassification configuration classification overrides []
    placement ∈ (Draft.ofSteps (Workflow.drawing configuration identifiers) plan.steps).placements →
      (if placement.node.role = .action ∧ placement.node.step.key ≠ "branch_end" then some placement.node.name else none) =
        placement.source.bind fun index => plan.steps[index]?.bind Step.actionName? := by
  intro plan listed
  cases origin : placement.source with
  | none =>
    obtain ⟨placed, _⟩ | ⟨_, _, _, _, same⟩ := (Draft.grown_ofSteps _ _).origin placement listed
    · rw [origin] at placed
      cases placed
    · have key : placement.node.step.key = "branch_end" := congrArg (·.key) same
      rw [if_neg fun told => told.2 key]
      rfl
  | some index =>
    obtain ⟨step, place, _, same⟩ := Draft.exists_step_ofSteps listed origin
    have role : placement.node.role = step.role := congrArg (·.role) same
    have key : placement.node.step.key = step.key := congrArg (·.key) same
    have own := Plan.key_ne_branchEnd follows reads (List.mem_of_getElem? place)
    rw [Option.bind_some, place, Option.bind_some, Step.actionName?, role, key]
    by_cases acts : step.role = .action
    · have called := Plan.getElem?_called place (by rw [acts]; decide)
      have recognizable := Plan.recognizable_called follows reads (List.mem_of_getElem? called)
      rw [if_pos ⟨acts, own⟩, if_pos acts, Draft.name_ofSteps distinct listed origin place recognizable.own
        (Plan.unique_name follows reads called)]
    · rw [if_neg fun told => acts told.1, if_neg acts]

/-- The actions of the plan are told by their names, in their order. -/
theorem names_completed_build (distinct : Function.Injective identifiers) :
    let plan := Plan.ofClassification configuration classification overrides []
    (completed (Workflow.build configuration identifiers name plan.steps).1).map Node.name =
      (plan.steps.filter (·.role = .action)).map (·.name) := by
  intro plan
  let draft := Draft.ofSteps (Workflow.drawing configuration identifiers) plan.steps
  calc (completed (Workflow.build configuration identifiers name plan.steps).1).map Node.name
      = draft.placements.filterMap fun placement =>
          placement.source.bind fun index => plan.steps[index]?.bind Step.actionName? := by
        rw [completed, Workflow.withRole, List.filter_filter, ← List.filterMap_eq_map, List.filterMap_filter,
          Review.nodes_build, Draft.nodes, List.filterMap_map]
        refine List.filterMap_congr fun placement listed => ?_
        rw [← told_ofSteps follows reads distinct listed]
        simp [and_comm]
    _ = ((PlanParts.ofSteps plan.steps).order.map Prod.fst).filterMap fun index =>
          plan.steps[index]?.bind Step.actionName? := by
        rw [← Draft.sources_ofSteps, List.filterMap_filterMap]
    _ = (PlanParts.ofSteps plan.steps).order.filterMap fun part => part.2.actionName? := by
        rw [List.filterMap_map]
        refine List.filterMap_congr fun part listed => ?_
        rw [Function.comp_apply, PlanParts.getElem?_of_mem_order listed, Option.bind_some]
    _ = (plan.steps.filter (·.role = .action)).map (·.name) := PlanParts.filterMap_actionName?_order plan.steps

/-- A node is mistaken for an action once it was written and read if and only if a step may fail or branches. -/
theorem exists_mistaken_build (distinct : Function.Injective identifiers) :
    let plan := Plan.ofClassification configuration classification overrides []
    (∃ node ∈ (Workflow.build configuration identifiers name plan.steps).1.nodes, IsMistaken node) ↔
      ∃ step ∈ plan.steps, step.mayFail = true ∨ step.isBranching = true := by
  intro plan
  constructor
  · rintro ⟨node, member, handles | ⟨_, ends⟩⟩
    · obtain ⟨step, planned, _, same⟩ | ⟨_, _, _, same⟩ := Review.origin_build node member
      · have role : node.role = step.role := congrArg (·.role) same
        rw [Plan.steps_ofClassification, List.mem_append] at planned
        have handler := planned.resolve_left fun called =>
          Plan.role_called_ne_errorHandler follows reads called (role.symm.trans handles)
        obtain ⟨_, _, _, index, guarded, place, prone, _⟩ := Plan.mem_handlers.mp handler
        refine ⟨guarded, ?_, .inl prone⟩
        rw [Plan.steps_ofClassification]
        exact List.mem_append_left _ (List.mem_of_getElem? place)
      · have action : node.role = .action := congrArg (·.role) same
        exact absurd (action.symm.trans handles) (by decide)
    · by_contra none
      have straight : ∀ step ∈ plan.steps, step.isBranching = false := fun step planned =>
        Bool.eq_false_iff.mpr fun branching => none ⟨step, planned, .inr branching⟩
      obtain ⟨step, planned, _, same⟩ := Review.origin_build_straight distinct straight node member
      have key : node.step.key = step.key := congrArg (·.key) same
      exact Plan.key_ne_branchEnd follows reads planned (key.symm.trans ends)
  · rintro ⟨step, planned, prone | branching⟩
    · obtain ⟨place, isStep⟩ := List.mem_iff_getElem?.mp planned
      have enabled : configuration.failures.enabled = true := by rw [follows.failures]
      have known : configuration.failures.failurePattern?.isSome := by
        rw [follows.failures]
        decide
      obtain ⟨pattern, found⟩ := Option.isSome_iff_exists.mp known
      have handler : Plan.handlerOf pattern place step ∈ plan.steps := Plan.handlerOf_mem enabled found isStep prone
      obtain ⟨node, listed, role⟩ := Review.exists_node_build handler (by simp [Plan.handlerOf])
      exact ⟨node, listed, .inl role⟩
    · obtain ⟨node, listed, ends⟩ : ∃ node ∈ (Draft.ofSteps (Workflow.drawing configuration identifiers) plan.steps).nodes,
          node.role = .action ∧ node.step.key = "branch_end" := Draft.exists_branchEnd distinct ⟨step, planned, branching⟩
      exact ⟨node, listed, .inr ends⟩

end Build

section Noted

variable {configuration : Configuration} {settings : NoteSettings} {identifiers : Identifiers} {workflow : Workflow}
  {added : List Node} {notes : List Note}
variable (stuck : Attachment.Stuck settings identifiers workflow.nodes added notes)
include stuck

/-- Notes are not told. -/
theorem completed_withNotes : completed (workflow.withNotes added) = completed workflow := by
  rw [completed, completed, Review.withRole_withNotes stuck (by decide)]

/-- Notes are not mistaken for actions. -/
theorem exists_mistaken_withNotes :
    (∃ node ∈ (workflow.withNotes added).nodes, IsMistaken node) ↔ ∃ node ∈ workflow.nodes, IsMistaken node := by
  constructor
  · rintro ⟨node, member, mistaken⟩
    refine ⟨node, (List.mem_append.mp member).resolve_right fun noted => ?_, mistaken⟩
    simp [IsMistaken, stuck.role noted] at mistaken
  · rintro ⟨node, member, mistaken⟩
    exact ⟨node, List.mem_append_left _ member, mistaken⟩

end Noted

end Documentation

namespace Generator

section Told

variable {generator : Generator} {description : String} {context : GenerationContext}
variable (accepted : Configuration.standard = .ok generator.configuration)
  (reads : generator.configuration.vocabulary.Reads (generator.classify description)) (alone : context.services = [])
include accepted reads alone

theorem trigger_generate :
    Documentation.trigger generator.configuration (generator.generate description context).workflow {} =
      (generator.classify description).trigger := by
  obtain ⟨added, notes, noted, stuck, _⟩ :=
    exists_notes_generate generator description context Review.isExecutable_build
  have drawn : Documentation.inferTrigger? generator.configuration (generator.draw description context).1 =
      some (generator.classify description).trigger := by
    rw [draw, plan, alone]
    exact Documentation.inferTrigger?_build reads accepted
  rw [Documentation.inferTrigger?, Workflow.trigger?_eq, ← Review.executableNodes_withNotes stuck, ← noted,
    ← Workflow.trigger?_eq] at drawn
  rw [Documentation.trigger, Documentation.inferTrigger?, drawn]
  rfl

theorem names_completed_generate (distinct : Function.Injective generator.identifiers) :
    (Documentation.completed (generator.generate description context).workflow).map Node.name =
      ((generator.plan description context).steps.filter (·.role = .action)).map (·.name) := by
  obtain ⟨added, notes, noted, stuck, _⟩ :=
    exists_notes_generate generator description context Review.isExecutable_build
  rw [noted, Documentation.completed_withNotes stuck, draw, plan, alone]
  exact Documentation.names_completed_build (Configuration.follows_of_ofSettings accepted) reads distinct

/-- Something with a name is told to be completed. -/
theorem exists_completed_generate (distinct : Function.Injective generator.identifiers) :
    ∃ node ∈ Documentation.completed (generator.generate description context).workflow, node.name ≠ "" := by
  have follows := Configuration.follows_of_ofSettings accepted
  obtain ⟨step, planned, acts⟩ : ∃ step ∈ (generator.plan description context).steps, step.role = .action := by
    rw [plan, alone]
    exact Review.exists_step_standard accepted reads context.overrides (.inr rfl)
  have listed : step.name ∈ (Documentation.completed (generator.generate description context).workflow).map Node.name := by
    rw [names_completed_generate accepted reads alone distinct]
    exact List.mem_map_of_mem (List.mem_filter.mpr ⟨planned, decide_eq_true acts⟩)
  obtain ⟨node, member, same⟩ := List.mem_map.mp listed
  have matched : Pattern.standardName.matchesText step.name = true := by
    rw [plan, alone] at planned
    exact (Plan.sound_steps follows reads planned).nameable.matched
  refine ⟨node, member, fun nameless => ?_⟩
  obtain ⟨capital, _⟩ := Pattern.matchesText_standardName_iff.mp matched
  rw [← same, nameless] at capital
  cases capital

theorem exists_mistaken_generate (distinct : Function.Injective generator.identifiers) :
    (∃ node ∈ (generator.generate description context).workflow.nodes, Documentation.IsMistaken node) ↔
      ∃ step ∈ (generator.plan description context).steps, step.mayFail = true ∨ step.isBranching = true := by
  obtain ⟨added, notes, noted, stuck, _⟩ :=
    exists_notes_generate generator description context Review.isExecutable_build
  rw [noted, Documentation.exists_mistaken_withNotes stuck, draw, plan, alone]
  exact Documentation.exists_mistaken_build (Configuration.follows_of_ofSettings accepted) reads distinct

end Told

/-- Under the standard settings, with numbered identifiers, every description and every caller who names no services and
whose parameters do not nest too deep: the generated workflow is told to end with the actions of its plan, and what is
read of its text, notes or not, to end with its handlers and the ends of its branches as well. So both sentences are the
same if and only if no step of the plan may fail or branches. -/
theorem description_reload (stem : String) (drawn : Nat) (documents : Bool) (description : String)
    (context : GenerationContext) (alone : context.services = [])
    (fits : ∀ entry ∈ context.overrides.entries, (Json.object entry.2).Fits 124) (width : Nat) (own other : Identifiers) :
    ∃ configuration, Configuration.standard = .ok configuration ∧
      let identifiers := (Identifiers.sequential stem).after drawn
      let generator : Generator := { configuration, identifiers, documents }
      let plan := generator.plan description context
      let workflow := (generator.generate description context).workflow
      let sentence (names : List String) := NoteTemplates.describe (Documentation.purpose workflow {})
        (generator.classify description).trigger.phrase (Documentation.completion names)
      ∃ reloaded, Workflow.ofText (workflow.toText width) = .ok reloaded ∧
        let told := (workflow.annotate configuration own {}).documentation.description
        let again := (reloaded.annotate configuration other {}).documentation.description
        told = sentence ((plan.steps.filter (·.role = .action)).map (·.name)) ∧
          again = sentence ((Documentation.actionLike workflow).map Node.name) ∧
          (again = told ↔ ∀ step ∈ plan.steps, step.mayFail = false ∧ step.isBranching = false) := by
  obtain ⟨configuration, accepted⟩ := Configuration.exists_standard
  refine ⟨configuration, accepted, ?_⟩
  intro identifiers generator plan workflow sentence
  have follows := Configuration.follows_of_ofSettings accepted
  have reads : configuration.vocabulary.Reads (configuration.vocabulary.classify description) :=
    Vocabulary.reads_classify description
  have distinct : Function.Injective identifiers := ((Identifiers.proper_sequential stem).after drawn).distinct
  have recoverable : ∀ node ∈ workflow.nodes, node.step.Recoverable configuration.catalog :=
    recoverable_generate follows reads
  have visible : ∃ node ∈ Documentation.completed workflow, node.name ≠ "" :=
    exists_completed_generate accepted reads alone distinct
  have trigger : Documentation.trigger configuration workflow {} = (generator.classify description).trigger :=
    trigger_generate accepted reads alone
  have mistaken : (∃ node ∈ workflow.nodes, Documentation.IsMistaken node) ↔
      ∃ step ∈ plan.steps, step.mayFail = true ∨ step.isBranching = true :=
    exists_mistaken_generate accepted reads alone distinct
  refine ⟨workflow.recovered, ofText_toText_generate follows reads fits width, ?_⟩
  simp only [Workflow.documentation_annotate]
  refine ⟨?_, ?_, ?_⟩
  · rw [Documentation.description_eq rfl visible, trigger, names_completed_generate accepted reads alone distinct]
  · rw [Documentation.description_recovered recoverable rfl visible, trigger]
  · rw [Documentation.description_recovered_eq_iff recoverable rfl visible, mistaken]
    simp only [not_exists, not_and, not_or, Bool.not_eq_true]

/-- A workflow that is generated without notes is told, then written, read and told again. -/
theorem description_reload_conditional :
    ({} : GenerationContext).services = [] ∧
      (∀ entry ∈ ({} : GenerationContext).overrides.entries, (Json.object entry.2).Fits 124) ∧
        ∃ configuration, Configuration.standard = .ok configuration ∧
          let generator : Generator :=
            { configuration, identifiers := (Identifiers.sequential "node").after 0, documents := false }
          let plan := generator.plan "If the order is valid, send an email" {}
          let workflow := (generator.generate "If the order is valid, send an email" {}).workflow
          ∃ reloaded, Workflow.ofText (workflow.toText 2) = .ok reloaded ∧
            ((reloaded.annotate configuration (.sequential "again") {}).documentation.description =
                (workflow.annotate configuration (.sequential "note") {}).documentation.description ↔
              ∀ step ∈ plan.steps, step.mayFail = false ∧ step.isBranching = false) := by
  have fits : ∀ entry ∈ ({} : GenerationContext).overrides.entries, (Json.object entry.2).Fits 124 := by decide
  obtain ⟨configuration, accepted, reloaded, read, _, _, outcome⟩ := description_reload "node" 0 false
    "If the order is valid, send an email" {} rfl fits 2 (.sequential "note") (.sequential "again")
  exact ⟨rfl, fits, configuration, accepted, reloaded, read, outcome⟩

end Generator

end WorkflowSynthesis
