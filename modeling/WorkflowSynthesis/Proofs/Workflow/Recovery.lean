import WorkflowSynthesis.Proofs.Json.Reread
import WorkflowSynthesis.Proofs.Workflow.RoundTrip

/-!
What is left of any workflow with proper parameters after it was written and read, also where real numbers are read as
others and places are too far out. The text is read unless parameters nest too deep.
-/

namespace WorkflowSynthesis

/-- A place in 64 bits. -/
def Position.readBack (position : Position) : Position :=
  ⟨(Int64.ofInt position.x).toInt, (Int64.ofInt position.y).toInt⟩

/-- A step with its numbers as they are read. -/
def Step.readBack (step : Step) : Step :=
  { step with
    typeVersion := Number.readReal step.typeVersion
    parameters := Json.readBackMembers step.parameters }

def Node.readBack (node : Node) : Node := { node with position := node.position.readBack, step := node.step.readBack }

def Workflow.readBack (workflow : Workflow) : Workflow := { workflow with nodes := workflow.nodes.map Node.readBack }

theorem Position.readBack_toJson (position : Position) : position.toJson.readBack = position.readBack.toJson := by
  rw [toJson, toJson, readBack, Int64.ofInt_toInt, Int64.ofInt_toInt]
  rfl

theorem Position.inRange_readBack (position : Position) : position.readBack.InRange :=
  ⟨⟨Int64.le_toInt _, Int64.toInt_lt _⟩, Int64.le_toInt _, Int64.toInt_lt _⟩

theorem Target.readBack_toJson (target : Target) : target.toJson.readBack = target.toJson := by
  simp [toJson]

theorem Dictionary.readBack_toJson {α : Type} (dictionary : Dictionary α) (write : α → Json) :
    (dictionary.toJson write).readBack = dictionary.toJson fun value => (write value).readBack := by
  simp [toJson]

theorem Connections.readBack_toJson (connections : Connections) : connections.toJson.readBack = connections.toJson := by
  simp [toJson, Dictionary.readBack_toJson, Target.readBack_toJson]

theorem Labels.readBack_toJson (labels : Labels) : labels.toJson.readBack = labels.toJson := by
  simp [toJson, Json.texts]

theorem Step.readBack_members (step : Step) :
    (step.members.map fun member => (member.1, member.2.readBack)) = step.readBack.members := by
  have credentials : (step.credentials.toJson fun name => .object [("name", .text name)]).readBack =
      step.credentials.toJson fun name => .object [("name", .text name)] := by
    simp [Dictionary.readBack_toJson]
  have optional : (step.optionalMembers.map fun member => (member.1, member.2.readBack)) = step.optionalMembers := by
    unfold optionalMembers
    split <;> cases step.onError <;> simp [credentials]
  rw [members_eq, members_eq]
  simp only [List.map_cons, optional]
  rfl

theorem Node.readBack_toJson (node : Node) : node.toJson.readBack = node.readBack.toJson := by
  simp [toJson, readBack, Position.readBack_toJson, Step.readBack_members]

namespace Workflow

theorem readBack_toJson (workflow : Workflow) : workflow.toJson.readBack = workflow.readBack.toJson := by
  have nodes : (Json.list Node.toJson workflow.nodes).readBack = Json.list Node.toJson (workflow.nodes.map Node.readBack) := by
    rw [Json.readBack_list, Json.list, Json.list, List.map_map]
    exact congrArg Json.array (List.map_congr_left fun node _ => node.readBack_toJson)
  simp [toJson, readBack, nodes, Connections.readBack_toJson, Labels.readBack_toJson]

theorem toJson_reloaded (workflow : Workflow) : workflow.reloaded.toJson = workflow.toJson := by
  have nodes : (workflow.nodes.map Node.reloaded).map Node.toJson = workflow.nodes.map Node.toJson := by
    rw [List.map_map]
    rfl
  rw [toJson, toJson, reloaded, Json.list, Json.list, nodes]

/-- What is left of a workflow after it was written and read, numbers and places included. -/
def recovered (workflow : Workflow) : Workflow := workflow.readBack.reloaded

theorem proper_readBack {workflow : Workflow}
    (proper : ∀ node ∈ workflow.nodes, (Json.object node.step.parameters).Proper) : workflow.readBack.Proper := by
  refine List.forall_mem_map.mpr fun node member => ⟨node.position.inRange_readBack, ?_⟩
  exact Json.proper_readBack (proper node member)

theorem depth_toJson_recovered (workflow : Workflow) : workflow.recovered.toJson.depth = workflow.toJson.depth := by
  rw [recovered, toJson_reloaded, ← readBack_toJson, Json.depth_readBack]

/-- A workflow with proper parameters is recovered from its own text, unless that text nests too deep. -/
theorem ofText_toText_of_proper {workflow : Workflow}
    (proper : ∀ node ∈ workflow.nodes, (Json.object node.step.parameters).Proper) (width : Nat) :
    ofText (workflow.toText width) =
      if workflow.toJson.depth ≤ maximumDepth then .ok workflow.recovered else .error .malformed := by
  have depth : workflow.readBack.toJson.depth = workflow.toJson.depth := by
    rw [← readBack_toJson, Json.depth_readBack]
  rw [ofText, toText, Json.parse?_pretty_of_proper width (Workflow.proper_toJson proper)]
  by_cases shallow : workflow.toJson.depth ≤ maximumDepth
  · simp only [if_pos shallow, readBack_toJson]
    exact ofJson_toJson (proper_readBack proper) (depth ▸ shallow)
  · simp only [if_neg shallow]

end Workflow

end WorkflowSynthesis
