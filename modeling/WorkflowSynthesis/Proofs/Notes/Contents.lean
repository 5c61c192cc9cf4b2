import WorkflowSynthesis.Notes.Documentation

/-!
What the notes about a workflow are drawn from: its name, the nodes that run, for every node the one whose failures
lead to it, and for the notes of the caller the nodes by name.
-/

namespace WorkflowSynthesis

namespace Workflow

/-- The trigger is looked for among the nodes that run. -/
theorem trigger?_eq (workflow : Workflow) : workflow.trigger? = workflow.executableNodes.find? (·.role = .trigger) := by
  rw [executableNodes, List.find?_filter]
  refine congrArg (fun accept => workflow.nodes.find? accept) (funext fun node => ?_)
  rw [Node.isExecutable]
  cases node.role <;> rfl

/-- The nodes of a role that runs are among the nodes that run. -/
theorem withRole_eq (workflow : Workflow) {role : Role} (runs : role ≠ .note) :
    workflow.withRole role = workflow.executableNodes.filter (·.role = role) := by
  rw [executableNodes, List.filter_filter]
  refine List.filter_congr fun node _ => ?_
  by_cases same : node.role = role
  · simp [Node.isExecutable, Role.isExecutable, same, runs]
  · simp [same]

end Workflow

namespace Documentation

variable (configuration : Configuration) (workflow : Workflow)

/-- The note about the start. -/
def startNote (context : DocumentationContext) : Note :=
  note configuration (workflow.trigger?.map (·.id)) .start
    (configuration.templates.render .start { purpose := purpose workflow context } ++ "\n\n" ++
      (ofWorkflow configuration workflow context).description)

theorem notes_ofWorkflow (context : DocumentationContext) :
    (ofWorkflow configuration workflow context).notes = startNote configuration workflow context ::
      (workflow.executableNodes.filterMap (nodeNote? configuration workflow) ++
        context.notes.map (customNote configuration workflow)) := rfl

variable {configuration workflow} {other : Workflow} {context : DocumentationContext}

/-- The description depends on the name and on the nodes that run. -/
theorem description_congr (named : other.name = workflow.name)
    (running : other.executableNodes = workflow.executableNodes) :
    (ofWorkflow configuration other context).description =
      (ofWorkflow configuration workflow context).description := by
  have triggers : other.trigger? = workflow.trigger? := by rw [other.trigger?_eq, workflow.trigger?_eq, running]
  have actions : other.withRole .action = workflow.withRole .action := by
    rw [other.withRole_eq (by decide), workflow.withRole_eq (by decide), running]
  simp only [ofWorkflow, purpose, trigger, inferTrigger?, outcome, defaultOutcome, named, triggers, actions]

theorem startNote_congr (named : other.name = workflow.name)
    (running : other.executableNodes = workflow.executableNodes) :
    startNote configuration other context = startNote configuration workflow context := by
  simp only [startNote, description_congr named running, purpose, named, other.trigger?_eq, workflow.trigger?_eq, running]

/-- The note about a node depends on the node and on the one whose failures lead to it. -/
theorem nodeNote?_congr {node : Node}
    (guarded : guarded? configuration other node = guarded? configuration workflow node) :
    nodeNote? configuration other node = nodeNote? configuration workflow node := by
  simp only [nodeNote?, subject?, guarded]

theorem anchor_nodeNote? {node : Node} {note : Note} (found : note ∈ nodeNote? configuration workflow node) :
    note.anchor = some node.id := by
  obtain ⟨subject, _, rfl⟩ := Option.map_eq_some_iff.mp found
  rfl

end Documentation

end WorkflowSynthesis
