import Mathlib.Algebra.BigOperators.Group.Finset.Basic
import WorkflowSynthesis.Proofs.Review.Reloading
import WorkflowSynthesis.Proofs.Workflow.Failures

/-!
How the review finds out that steps are lost. It gives every step that must be found again a node of its type, one after
another, as long as there are any; so it misses of every type as many as the plan asks for beyond those that there are.
Under the standard settings no other node has the type of such a step, so none can stand in for one that is gone.
-/

namespace WorkflowSynthesis

namespace Review

section Unmatched

end Unmatched

section Plan

variable (workflow : Workflow) (plan : Plan)

end Plan

section Build

variable {configuration : Configuration} {identifiers : Identifiers} {name : String} {steps : List Step}

end Build

section Standard

variable {configuration : Configuration} {classification : Classification} {overrides : Overrides}
  {services : List String}

/-- Whoever asks for what the catalog does not have asks for something that must be found again. -/
theorem role_of_unlisted {request : Request} (member : request ∈ Plan.requests configuration classification services)
    (unlisted : Catalog.standard.get? request.key = none) : request.role ∈ [Role.action, .condition, .dataOp] := by
  have triggers : ∀ trigger : Trigger, (Catalog.standard.get? trigger.key).isSome := by
    intro trigger
    cases trigger <;> decide
  rw [Plan.requests_eq, List.mem_cons, List.mem_append, List.mem_append] at member
  rcases member with rfl | (action | condition) | dataOp
  · have known := triggers classification.trigger
    rw [show Catalog.standard.get? classification.trigger.key = none from unlisted] at known
    cases known
  · simp [Plan.role_actions action]
  · obtain ⟨keyword, _, rfl⟩ := List.mem_map.mp (Request.mem_fresh condition).1
    simp [Plan.conditionRequest]
  · obtain ⟨keyword, _, rfl⟩ := List.mem_map.mp (Request.mem_fresh dataOp).1
    simp [Plan.dataOpRequest]

end Standard

end Review

namespace Generator

end Generator

namespace Workflow

end Workflow

end WorkflowSynthesis
