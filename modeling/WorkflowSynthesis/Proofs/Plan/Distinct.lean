import WorkflowSynthesis.Proofs.Notes.Recovery
import WorkflowSynthesis.Proofs.Plan.Recovery
import WorkflowSynthesis.Proofs.Workflow.Plain

/-!
What the steps of a plan are told by, under the standard settings and without services of the caller. No two steps have
one name, types tell what may fail and what calls a service, and no step that is called for has the type of handlers.
-/

namespace WorkflowSynthesis

/-- A step of which notes see as much once it was written and read. -/
structure Step.Recognizable (catalog : Catalog) (step : Step) : Prop where
  own : Text.isDerived step.name = false
  role : step.role = Role.ofNodeType step.nodeType
  typed : step.nodeType ≠ passThroughType
  service : step.reloaded.callsService catalog = step.callsService catalog
  condition : step.role = .condition → catalog.mayFailType step.nodeType = false
  prone : step.mayFail = true →
    catalog.mayFailType step.nodeType = true ∧ step.errorOutput = true ∧ 0 < step.outputs

/-- The end of a branch calls no service, written or read. -/
theorem Step.callsService_branchEnd (source : String) (outputs output : Nat) :
    (branchEnd source outputs output).callsService .standard = false ∧
      (branchEnd source outputs output).reloaded.callsService .standard = false := by
  have untyped : Catalog.standard.findByType? passThroughType = none := by decide
  simp [callsService, branchEnd, reloaded, Catalog.entryOf?_of_none Catalog.unlisted_standard.branchEnd,
    Catalog.entryOf?_of_none Catalog.unlisted_standard.unnamed, untyped, Dictionary.empty]

namespace Plan

theorem recognizable_standardStep : ∀ role ∈ placedRoles, ∀ key ∈ standardKeys role,
    (standardStep role key).Recognizable .standard := by
  have all : ∀ role ∈ placedRoles, ∀ key ∈ standardKeys role,
      Text.isDerived (standardStep role key).name = false ∧
      (standardStep role key).role = Role.ofNodeType (standardStep role key).nodeType ∧
      (standardStep role key).nodeType ≠ Step.passThroughType ∧
      (standardStep role key).reloaded.callsService .standard = (standardStep role key).callsService .standard ∧
      ((standardStep role key).role = .condition →
        Catalog.standard.mayFailType (standardStep role key).nodeType = false) ∧
      ((standardStep role key).mayFail = true → Catalog.standard.mayFailType (standardStep role key).nodeType = true ∧
        (standardStep role key).errorOutput = true ∧ 0 < (standardStep role key).outputs) := by
    decide
  intro role placed key listed
  obtain ⟨own, isRole, typed, service, condition, prone⟩ := all role placed key listed
  exact ⟨own, isRole, typed, service, condition, prone⟩

section Standard

variable {configuration : Configuration} {classification : Classification} {overrides : Overrides} {step : Step}
variable (follows : configuration.Follows {}) (reads : configuration.vocabulary.Reads classification)
include follows reads

theorem recognizable_called (member : step ∈ calledSteps configuration classification overrides []) :
    step.Recognizable configuration.catalog := by
  obtain ⟨request, listed, fromText, _, rfl⟩ := exists_request member
  obtain ⟨placed, known⟩ := asked_of_mem follows reads listed
  have recognizable := recognizable_standardStep request.role placed request.key known
  rw [follows.catalog_standard, stepOf_standard]
  exact ⟨recognizable.own, recognizable.role, recognizable.typed, recognizable.service, recognizable.condition,
    recognizable.prone⟩

/-- No two steps that a description calls for have one name. -/
theorem nodup_names_called : ((calledSteps configuration classification overrides []).map (·.name)).Nodup := by
  have trigger := (asked_triggerRequest classification.trigger).subperm (·.name) fun _ _ => rfl
  have actions := (asked_actions follows reads).subperm (·.name) fun _ _ => rfl
  have conditions := (asked_conditionRequests follows reads []).subperm (·.name) fun _ _ => rfl
  have dataOps := (asked_dataOpRequests follows reads []).subperm (·.name) fun _ _ => rfl
  have distinct : (placedRoles.flatMap fun role => (standardKeys role).map fun key => (standardStep role key).name).Nodup := by
    decide
  obtain ⟨names, perm, sublist⟩ := trigger.append ((actions.append conditions).append dataOps)
  have nodup : names.Nodup := sublist.nodup (by simpa [placedRoles] using distinct)
  rw [map_calledSteps configuration classification overrides [] (·.name) fun _ _ _ => rfl, requests_eq,
    follows.catalog_standard]
  simpa using perm.nodup_iff.mp nodup

/-- Of all steps of the plan, only that which is called for at a place has its name. -/
theorem unique_name {index : Nat} (place : (calledSteps configuration classification overrides [])[index]? = some step)
    (other : Nat) (otherStep : Step)
    (otherPlace : (ofClassification configuration classification overrides []).steps[other]? = some otherStep)
    (same : otherStep.name = step.name) : other = index := by
  rw [steps_ofClassification, List.getElem?_append] at otherPlace
  split at otherPlace
  · next inside =>
    have long : other < ((calledSteps configuration classification overrides []).map (·.name)).length := by
      rwa [List.length_map]
    refine (List.getElem?_inj long (nodup_names_called follows reads)).mp ?_
    rw [List.getElem?_map, List.getElem?_map, otherPlace, place, Option.map_some, Option.map_some, same]
  · obtain ⟨_, pattern, _, guardedPlace, guarded, _, _, rfl⟩ := mem_handlers.mp (List.mem_of_getElem? otherPlace)
    have own := (recognizable_called follows reads (List.mem_of_getElem? place)).own
    have derived : Text.isDerived (guarded.name ++ " Fallback") = true := Text.isDerived_append _ (by decide)
    rw [← same] at own
    exact absurd (derived.symm.trans own) (by decide)

end Standard

end Plan

end WorkflowSynthesis
