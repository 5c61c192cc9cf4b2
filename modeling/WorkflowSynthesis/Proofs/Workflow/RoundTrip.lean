import WorkflowSynthesis.Proofs.Json.Fields
import WorkflowSynthesis.Workflow.Reader
import WorkflowSynthesis.Workflow.Writer

/-!
Workflows that are written and read again. Only what a runtime needs is written, so what is read keeps
that and recovers the role and the error output of each node from it.
-/

namespace WorkflowSynthesis

/-- What is left of a step after it was written and read. -/
def Step.reloaded (step : Step) : Step where
  name := step.name
  nodeType := step.nodeType
  typeVersion := step.typeVersion
  parameters := step.parameters
  credentials := step.credentials
  onError := step.onError
  role := Role.ofNodeType step.nodeType
  errorOutput := step.onError.isSome

def Node.reloaded (node : Node) : Node := { node with step := node.step.reloaded }

/-- What is left of a workflow after it was written and read. -/
def Workflow.reloaded (workflow : Workflow) : Workflow :=
  { workflow with nodes := workflow.nodes.map Node.reloaded }

/-- Whether both coordinates have 64 bits. -/
def Position.InRange (position : Position) : Prop :=
  (-0x8000000000000000 ≤ position.x ∧ position.x < 0x8000000000000000) ∧
    -0x8000000000000000 ≤ position.y ∧ position.y < 0x8000000000000000

/-- Whether coordinates have 64 bits and parameters are proper, as in every workflow that is held. -/
def Workflow.Proper (workflow : Workflow) : Prop :=
  ∀ node ∈ workflow.nodes, node.position.InRange ∧ (Json.object node.step.parameters).Proper

section Reading

open Document (ofJson)

theorem Position.ofDocument?_toJson {position : Position} (range : position.InRange) :
    Position.ofDocument? (ofJson position.toJson) = some position := by
  have x := Document.signedInteger?_signed range.1.1 range.1.2
  have y := Document.signedInteger?_signed range.2.1 range.2.2
  simp only [Position.toJson, ofJson, Document.ofItems, Position.ofDocument?, x, y]
  rfl

theorem Target.ofDocument?_toJson (target : Target) : Target.ofDocument? (ofJson target.toJson) = some target := by
  have fields : (ofJson target.toJson).fields? ["node", "type", "index"] =
      some [("node", ofJson (.text target.node)), ("type", ofJson (.text target.kind)),
        ("index", ofJson (.nat target.index.toNat))] := by
    rw [toJson, Document.fields?_object (by simp [Members.keys]) (by simp [Members.keys])]
    rfl
  rw [ofDocument?, fields, Option.bind_eq_bind, Option.bind_some]
  simp

namespace Connections

theorem outputsOfDocument?_main (outputs : List (List Target)) :
    outputsOfDocument? (ofJson (.object [("main", .list (.list Target.toJson) outputs)])) = some outputs := by
  have targets : ∀ targets : List Target,
      (ofJson (.list Target.toJson targets)).list? Target.ofDocument? = some targets := by
    intro targets
    have read := Document.list?_list fun target (_ : target ∈ targets) => target.ofDocument?_toJson
    rwa [List.map_id'] at read
  have main := Document.list?_list fun held (_ : held ∈ outputs) => targets held
  rw [List.map_id'] at main
  rw [outputsOfDocument?, Document.fields?_single, Option.bind_eq_bind, Option.bind_some]
  exact main

theorem ofDocument?_toJson (connections : Connections) : ofDocument? (ofJson connections.toJson) = some connections := by
  rw [ofDocument?, toJson, Document.dictionary?_toJson fun entry _ => outputsOfDocument?_main entry.2]
  rfl

end Connections

namespace Step

theorem credentialOfDocument?_name (name : String) :
    credentialOfDocument? (ofJson (.object [("name", .text name)])) = some name := by
  rw [credentialOfDocument?, Document.fields?_single]
  rfl

/-- The members that are left out where there is nothing to write. -/
def optionalMembers (step : Step) : Members :=
  (if step.credentials.entries.isEmpty then []
    else [("credentials", step.credentials.toJson fun name => .object [("name", .text name)])]) ++
  step.onError.toList.map fun mode => ("onError", .text mode)

theorem members_eq (step : Step) : step.members = ("name", .text step.name) :: ("type", .text step.nodeType) ::
    ("typeVersion", .real step.typeVersion) :: ("parameters", .object step.parameters) :: step.optionalMembers := by
  simp [members, optionalMembers]

theorem onError_members (step : Step) :
    Fields.orElse ((optionalMembers step).map fun member => (member.1, ofJson member.2)) "onError"
      (Document.optional? Document.text?) none = some step.onError := by
  unfold optionalMembers
  split <;> cases step.onError <;> simp [Document.optional?_text]

theorem credentials_members (step : Step) :
    Fields.orElse ((optionalMembers step).map fun member => (member.1, ofJson member.2)) "credentials"
      (Document.dictionary? credentialOfDocument?) .empty = some step.credentials := by
  have read : (ofJson (step.credentials.toJson fun name => .object [("name", .text name)])).dictionary?
      credentialOfDocument? = some step.credentials :=
    Document.dictionary?_toJson fun entry _ => credentialOfDocument?_name entry.2
  unfold optionalMembers
  split
  · next bare =>
    have same : step.credentials = .empty := Dictionary.eq_of_entries_eq (List.isEmpty_iff.mp bare)
    cases step.onError <;> simp [same]
  · simp [read]

/-- A step is read from the fields of its node. -/
theorem ofFields?_members {step : Step} (id position : Json) (proper : (Json.object step.parameters).Proper)
    (shallow : (Json.object step.parameters).depth ≤ maximumDepth) :
    ofFields? ((("id", id) :: ("position", position) :: step.members).map fun member => (member.1, ofJson member.2)) =
      some step.reloaded := by
  have parameters := Document.members?_object proper shallow
  have onError := onError_members step
  have credentials := credentials_members step
  rw [members_eq, ofFields?]
  simp [parameters, onError, credentials, reloaded]

theorem keys_optionalMembers (step : Step) : step.optionalMembers.keys.Sublist ["credentials", "onError"] := by
  unfold optionalMembers
  split <;> cases step.onError <;> simp [Members.keys]

end Step

theorem Node.keys_members (node : Node) :
    Members.keys (("id", .text node.id) :: ("position", node.position.toJson) :: node.step.members)
      |>.Sublist ["id", "position", "name", "type", "typeVersion", "parameters", "credentials", "onError"] := by
  rw [Step.members_eq]
  simpa [Members.keys] using node.step.keys_optionalMembers

theorem Node.ofDocument?_toJson {node : Node} (range : node.position.InRange)
    (proper : (Json.object node.step.parameters).Proper)
    (shallow : (Json.object node.step.parameters).depth ≤ maximumDepth) :
    Node.ofDocument? (ofJson node.toJson) = some node.reloaded := by
  have step := Step.ofFields?_members (.text node.id) node.position.toJson proper shallow
  have position := Position.ofDocument?_toJson range
  have fields := Document.fields?_object node.keys_members.subset (node.keys_members.nodup (by decide))
  rw [ofJson] at fields
  rw [toJson, ofJson, ofDocument?, fields, Option.bind_eq_bind, Option.bind_some, step]
  simp [position, reloaded]

namespace Workflow

theorem executionOrderOfDocument?_single (order : String) :
    executionOrderOfDocument? (.ofJson (.object [("executionOrder", .text order)])) = some order := by
  rw [executionOrderOfDocument?, Document.fields?_single]
  simp

/-- The parameters of a node stand three brackets deep. -/
theorem depth_parameters_lt {workflow : Workflow} {node : Node} {room : Nat} (member : node ∈ workflow.nodes)
    (shallow : workflow.toJson.depth ≤ room + 3) : (Json.object node.step.parameters).depth ≤ room := by
  rw [toJson, Json.depth_object_le_iff] at shallow
  have nodes := Json.depth_list_le_iff.mp (shallow ("nodes", .list Node.toJson workflow.nodes) (by simp)) node member
  rw [Node.toJson, Json.depth_object_le_iff, Step.members_eq] at nodes
  exact nodes ("parameters", .object node.step.parameters) (by simp)

theorem ofDocument?_toJson {workflow : Workflow} (proper : workflow.Proper)
    (shallow : workflow.toJson.depth ≤ maximumDepth) : ofDocument? (.ofJson workflow.toJson) = some workflow.reloaded := by
  have nodes := Document.list?_list fun node (member : node ∈ workflow.nodes) =>
    Node.ofDocument?_toJson (proper node member).1 (proper node member).2
      (Nat.le_trans (depth_parameters_lt member shallow) (by decide))
  have connections := workflow.connections.ofDocument?_toJson
  have labels := Document.labels?_toJson workflow.tags
  rw [ofDocument?, toJson, Document.fields?_object (by simp [Members.keys]) (by simp [Members.keys]),
    Option.bind_eq_bind, Option.bind_some]
  simp [nodes, connections, labels, executionOrderOfDocument?_single, reloaded]

theorem ofJson_toJson {workflow : Workflow} (proper : workflow.Proper)
    (shallow : workflow.toJson.depth ≤ maximumDepth) : ofJson workflow.toJson = .ok workflow.reloaded := by
  have read := ofDocument?_toJson proper shallow
  rw [toJson] at read ⊢
  rw [ofJson]
  split
  · next property missing =>
    simp [requiredProperties, Members.value?, List.lookup_cons] at missing
  · rw [read]

end Workflow

end Reading

section Writing

theorem Target.proper_toJson (target : Target) : target.toJson.Proper :=
  Json.proper_object (by simp [Members.keys]) (by simp)

theorem Connections.proper_toJson (connections : Connections) : connections.toJson.Proper := by
  refine Dictionary.proper_toJson fun outputs _ => Json.proper_object (by simp [Members.keys]) ?_
  simpa using Json.proper_list fun targets _ => Json.proper_list fun target _ => target.proper_toJson

theorem Step.proper_optionalMembers (step : Step) : ∀ member ∈ step.optionalMembers, member.2.Proper := by
  have credentials : (step.credentials.toJson fun name => .object [("name", .text name)]).Proper :=
    Dictionary.proper_toJson fun _ _ => Json.proper_object (by simp [Members.keys]) (by simp)
  unfold optionalMembers
  split <;> cases step.onError <;> simp [credentials]

theorem Node.proper_toJson {node : Node} (proper : (Json.object node.step.parameters).Proper) : node.toJson.Proper := by
  have position : node.position.toJson.Proper := Json.properItems_iff.mpr (by simp)
  refine Json.proper_object (node.keys_members.nodup (by decide)) ?_
  rw [Step.members_eq]
  simpa [position, proper] using node.step.proper_optionalMembers

theorem Workflow.proper_toJson {workflow : Workflow}
    (proper : ∀ node ∈ workflow.nodes, (Json.object node.step.parameters).Proper) : workflow.toJson.Proper := by
  have nodes := Json.proper_list fun node (member : node ∈ workflow.nodes) => node.proper_toJson (proper node member)
  have settings : (Json.object [("executionOrder", .text workflow.executionOrder)]).Proper :=
    Json.proper_object (by simp [Members.keys]) (by simp)
  have tags : workflow.tags.toJson.Proper := Json.proper_texts _
  exact Json.proper_object (by simp [Members.keys]) (by simp [nodes, settings, tags, workflow.connections.proper_toJson])

theorem Target.depth_toJson_le (target : Target) : target.toJson.depth ≤ 1 := Json.depth_object_le_iff.mpr (by simp)

theorem Connections.depth_toJson_le (connections : Connections) : connections.toJson.depth ≤ 5 := by
  refine Dictionary.depth_toJson_le fun outputs => Json.depth_object_le_iff.mpr ?_
  simpa using Json.depth_list_le_iff.mpr fun targets _ => Json.depth_list_le_iff.mpr fun target _ => target.depth_toJson_le

theorem Step.depth_optionalMembers_le (step : Step) : ∀ member ∈ step.optionalMembers, member.2.depth ≤ 2 := by
  have credentials : (step.credentials.toJson fun name => .object [("name", .text name)]).depth ≤ 2 :=
    Dictionary.depth_toJson_le fun name => Json.depth_object_le_iff.mpr (by simp)
  unfold optionalMembers
  split <;> cases step.onError <;> simp [credentials]

theorem Node.depth_toJson_le {node : Node} {room : Nat} (deep : 2 ≤ room)
    (shallow : (Json.object node.step.parameters).depth ≤ room) : node.toJson.depth ≤ room + 1 := by
  have position : node.position.toJson.depth ≤ 1 := Json.depth_array_le_iff.mpr (by simp)
  refine Json.depth_object_le_iff.mpr ?_
  rw [Step.members_eq]
  simp only [List.forall_mem_cons]
  refine ⟨by simp, by omega, by simp, by simp, by simp, shallow, fun member listed => ?_⟩
  exact Nat.le_trans (node.step.depth_optionalMembers_le member listed) deep

theorem Workflow.depth_toJson_le {workflow : Workflow} {room : Nat} (deep : 3 ≤ room)
    (shallow : ∀ node ∈ workflow.nodes, (Json.object node.step.parameters).depth ≤ room) :
    workflow.toJson.depth ≤ room + 3 := by
  have nodes : (Json.list Node.toJson workflow.nodes).depth ≤ room + 2 :=
    Json.depth_list_le_iff.mpr fun node member => node.depth_toJson_le (by omega) (shallow node member)
  have connections := workflow.connections.depth_toJson_le
  have settings : (Json.object [("executionOrder", .text workflow.executionOrder)]).depth ≤ 1 :=
    Json.depth_object_le_iff.mpr (by simp)
  have tags : workflow.tags.toJson.depth ≤ 1 := Json.depth_texts_le _
  refine Json.depth_object_le_iff.mpr ?_
  simp only [List.forall_mem_cons]
  exact ⟨by simp, nodes, by omega, by simp, by omega, by omega, by simp⟩

theorem Workflow.depth_toJson_le_iff {workflow : Workflow} {room : Nat} (deep : 3 ≤ room) :
    workflow.toJson.depth ≤ room + 3 ↔ ∀ node ∈ workflow.nodes, (Json.object node.step.parameters).depth ≤ room :=
  ⟨fun shallow _ member => depth_parameters_lt member shallow, depth_toJson_le deep⟩

end Writing

section Read

theorem Step.reloaded_of_ofFields? {fields : Fields} {step : Step} {bound : Nat}
    (within : ∀ field ∈ fields, field.2.Within (bound + 1)) (found : ofFields? fields = some step) :
    step.reloaded = step ∧ (Json.object step.parameters).Proper ∧ (Json.object step.parameters).depth ≤ bound + 1 := by
  simp only [ofFields?, Option.bind_eq_bind, Option.bind_eq_some_iff, pure, Option.some.injEq] at found
  obtain ⟨nodeType, _, onError, _, name, _, typeVersion, _, parameters, parametersRead, credentials, _, rfl⟩ := found
  refine ⟨rfl, ?_⟩
  rcases Fields.within_orElse within parametersRead with rfl | ⟨document, inside, read⟩
  · exact ⟨Json.proper_object .nil (by simp), Json.depth_object_le_iff.mpr (by simp)⟩
  · exact inside.freeMembers read

theorem Position.inRange_of_ofDocument? {document : Document} {position : Position}
    (found : ofDocument? document = some position) : position.InRange := by
  unfold ofDocument? at found
  split at found
  · simp only [Option.bind_eq_bind, Option.bind_eq_some_iff, pure, Option.some.injEq] at found
    obtain ⟨x, xRead, y, yRead, rfl⟩ := found
    exact ⟨Document.range_of_integer? xRead, Document.range_of_integer? yRead⟩
  · cases found

theorem Node.reloaded_of_ofDocument? {document : Document} {node : Node} {bound : Nat}
    (within : document.Within (bound + 2)) (found : ofDocument? document = some node) :
    node.reloaded = node ∧ node.position.InRange ∧ (Json.object node.step.parameters).Proper ∧
      (Json.object node.step.parameters).depth ≤ bound + 1 := by
  unfold ofDocument? at found
  split at found
  · simp only [Option.bind_eq_bind, Option.bind_eq_some_iff, pure, Option.some.injEq] at found
    obtain ⟨fields, fieldsRead, id, _, position, positionRead, step, stepRead, rfl⟩ := found
    obtain ⟨same, proper, shallow⟩ := Step.reloaded_of_ofFields? (within.fields fieldsRead) stepRead
    obtain ⟨written, _, read⟩ := Fields.within_required (within.fields fieldsRead) positionRead
    exact ⟨by rw [Node.reloaded, same], Position.inRange_of_ofDocument? read, proper, shallow⟩
  · cases found

namespace Workflow

theorem reloaded_of_ofDocument? {document : Document} {workflow : Workflow} {bound : Nat}
    (within : document.Within (bound + 4)) (found : ofDocument? document = some workflow) :
    workflow.reloaded = workflow ∧ workflow.Proper ∧
      ∀ node ∈ workflow.nodes, (Json.object node.step.parameters).depth ≤ bound + 1 := by
  simp only [ofDocument?, Option.bind_eq_bind, Option.bind_eq_some_iff, pure, Option.some.injEq] at found
  obtain ⟨fields, fieldsRead, name, _, nodes, nodesRead, connections, _, active, _, order, _, tags, _, rfl⟩ := found
  obtain ⟨written, inside, read⟩ := Fields.within_required (within.fields fieldsRead) nodesRead
  have each : ∀ node ∈ nodes, node.reloaded = node ∧ node.position.InRange ∧
      (Json.object node.step.parameters).Proper ∧ (Json.object node.step.parameters).depth ≤ bound + 1 := by
    intro node member
    obtain ⟨item, itemInside, itemRead⟩ := inside.list read member
    exact Node.reloaded_of_ofDocument? itemInside itemRead
  refine ⟨?_, fun node member => ⟨(each node member).2.1, (each node member).2.2.1⟩, fun node member => (each node member).2.2.2⟩
  rw [Workflow.reloaded, List.map_congr_left fun node member => (each node member).1, List.map_id']

/-- What is read is proper, stays the same when it is read again, and can be written without nesting too deep. -/
theorem reloaded_of_ofText {text : String} {workflow : Workflow} (found : ofText text = .ok workflow) :
    workflow.reloaded = workflow ∧ workflow.Proper ∧ workflow.toJson.depth ≤ maximumDepth := by
  unfold ofText at found
  split at found
  · next value parsed =>
    obtain ⟨proper, shallow⟩ := Json.proper_of_parse? parsed
    have within : (Document.ofJson value).Within (123 + 4) := ⟨value, rfl, proper, shallow⟩
    unfold ofJson at found
    split at found
    · split at found
      · cases found
      · split at found
        · next read =>
          cases found
          obtain ⟨same, proper, nested⟩ := reloaded_of_ofDocument? within read
          exact ⟨same, proper, depth_toJson_le (by omega) nested⟩
        · cases found
    · cases found
  · cases found

theorem toText_reloaded (workflow : Workflow) (width : Nat) : workflow.reloaded.toText width = workflow.toText width := by
  have nodes : (workflow.nodes.map Node.reloaded).map Node.toJson = workflow.nodes.map Node.toJson := by
    rw [List.map_map]
    rfl
  rw [toText, toText, toJson, toJson, reloaded, Json.list, Json.list, nodes]

theorem ofText_toText_eq {workflow : Workflow} (proper : workflow.Proper) (exact' : workflow.toJson.Exact) (width : Nat) :
    ofText (workflow.toText width) =
      if workflow.toJson.depth ≤ maximumDepth then .ok workflow.reloaded else .error .malformed := by
  have parameters := Workflow.proper_toJson fun node member => (proper node member).2
  have parsed := Json.parse?_pretty_of_exact width parameters exact'
  rw [ofText, toText, parsed]
  by_cases shallow : workflow.toJson.depth ≤ maximumDepth
  · simp only [if_pos shallow]
    exact ofJson_toJson proper shallow
  · simp only [if_neg shallow]

/-- A workflow whose real numbers are read as they were written is read from its own text, unless that text
nests too deep. What is read keeps everything visible and is written the same, and a workflow that was read
once is read unchanged. -/
theorem ofText_toText (workflow : Workflow) (exact' : workflow.toJson.Exact) :
    (workflow.Proper → ∀ width, ∃ document, Document.parse? (workflow.toText width) = some document ∧
      ofText (workflow.toText width) =
        if document.depth ≤ maximumDepth then .ok workflow.reloaded else .error .malformed) ∧
    (∀ width, workflow.reloaded.toText width = workflow.toText width) ∧
    ∀ text, ofText text = .ok workflow → ∀ width, ofText (workflow.toText width) = .ok workflow := by
  refine ⟨fun proper width => ?_, workflow.toText_reloaded, fun text found width => ?_⟩
  · refine ⟨workflow.toJson.stated, Document.parse?_pretty width workflow.toJson, ?_⟩
    rw [Json.depth_stated]
    exact ofText_toText_eq proper exact' width
  · obtain ⟨same, proper, shallow⟩ := reloaded_of_ofText found
    rw [ofText_toText_eq proper exact' width, if_pos shallow, same]

/-- A workflow of one node that waits two and a half seconds. -/
def pause : Workflow where
  name := "Pause"
  nodes := [{
    id := "1"
    position := ⟨240, -40⟩
    step := {
      name := "Wait"
      nodeType := "n8n-nodes-base.wait"
      parameters := [("amount", .real { negative := false, code := 0x4004000000000000 }), ("unit", .text "seconds\n")]
      onError := some "continueErrorOutput" } }]
  connections := Connections.empty.connect "1" 1 "1" 0
  active := false
  executionOrder := "v1"
  tags := .empty

theorem ofText_toText_pause : pause.toJson.Exact ∧ pause.Proper ∧ ofText (pause.toText 2) = .ok pause.reloaded := by
  have exact' : pause.toJson.Exact := by
    have reread : ∀ number ∈ pause.toJson.numbers, number.reread = some number := by decide +kernel
    exact fun real member => reread _ member
  have proper : pause.Proper := by
    intro node member
    rw [pause, List.mem_singleton] at member
    subst member
    exact ⟨⟨by decide, by decide⟩, Json.proper_object (by decide) (by simp)⟩
  obtain ⟨document, parsed, read⟩ := (ofText_toText pause exact').1 proper 2
  have same : document = pause.toJson.stated := by
    have whole := Document.parse?_pretty 2 pause.toJson
    exact Option.some.inj (parsed.symm.trans whole)
  have shallow : document.depth ≤ maximumDepth := by
    rw [same, Json.depth_stated]
    decide
  exact ⟨exact', proper, by rw [read, if_pos shallow]⟩

end Workflow

end Read

end WorkflowSynthesis
