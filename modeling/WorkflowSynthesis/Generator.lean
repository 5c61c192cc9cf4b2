import WorkflowSynthesis.Notes.Attachment
import WorkflowSynthesis.Review.Basic
import WorkflowSynthesis.Workflow.Draft

/-!
Generating workflows. A description is classified, planned, drawn and reviewed, and notes are stuck to
the drawing. Nothing can fail: what is wrong with a description shows in the report.
-/

namespace WorkflowSynthesis

structure GenerationContext where
  /-- Completes the sentence "This workflow ...". -/
  purpose : String := ""
  /-- Completes the sentence "It results in ...". -/
  outcome : String := ""
  /-- Further services to call, by word or by catalog key. -/
  services : List String := []
  overrides : Overrides := .empty
  notes : List CustomNote := []

structure Generator where
  configuration : Configuration
  identifiers : Identifiers
  classify : String → Classification := configuration.vocabulary.classify
  documents : Bool := configuration.thresholds.requiredDocumentation

structure Generation where
  classification : Classification
  plan : Plan
  workflow : Workflow
  documentation : Option Documentation
  /-- The report on the workflow as it was drawn, before notes were stuck to it. -/
  report : Report
  drawn : Nat

namespace Generator

variable (generator : Generator)

def plan (description : String) (context : GenerationContext) : Plan :=
  Plan.ofClassification generator.configuration (generator.classify description) context.overrides
    context.services

def draw (description : String) (context : GenerationContext) : Workflow × Nat :=
  Workflow.build generator.configuration generator.identifiers
    (generator.configuration.naming.workflowName description) (generator.plan description context).steps

def documentationContext (description : String) (context : GenerationContext) : DocumentationContext where
  purpose := context.purpose
  outcome := context.outcome
  trigger := some (generator.classify description).trigger
  notes := context.notes

def generate (description : String) (context : GenerationContext) : Generation :=
  let plan := generator.plan description context
  let (workflow, drawn) := generator.draw description context
  let bare : Generation := {
    classification := generator.classify description
    plan, workflow, drawn
    documentation := none
    report := workflow.review generator.configuration plan }
  if generator.documents then
    let annotated := workflow.annotate generator.configuration (generator.identifiers.after drawn)
      (generator.documentationContext description context)
    { bare with
      workflow := annotated.workflow
      documentation := some annotated.documentation
      drawn := drawn + annotated.drawn }
  else bare

end Generator

def Generation.isExecutable (generation : Generation) : Bool := !generation.report.isBlocked

end WorkflowSynthesis
