import WorkflowSynthesis.Proofs.Review.Advisory
import WorkflowSynthesis.Proofs.Workflow.Removal

/-!
Sticking notes to a workflow replaces those it has. All other nodes, and the edges between them, stay; and where the
connections and the notes only speak of nodes that are there, sticking the same notes again only gives them new
identifiers.
-/

namespace WorkflowSynthesis

namespace Attachment

variable {grid : Grid} {settings : NoteSettings} {top : Int}

/-- Whether two nodes differ in nothing but their identifiers. -/
def Twin (first second : Node) : Prop := second = { first with id := second.id }

/-- The same nodes first, and then nodes that differ in nothing but their identifiers. -/
def Twins (kept first second : List Node) : Prop :=
  ∃ left right, first = kept ++ left ∧ second = kept ++ right ∧ List.Forall₂ Twin left right

namespace Twins

variable {kept first second : List Node}

theorem map_eq {α : Type} {view : Node → α} (blind : ∀ node id, view { node with id := id } = view node)
    (twins : Twins kept first second) : second.map view = first.map view := by
  obtain ⟨left, right, rfl, rfl, each⟩ := twins
  rw [List.map_append, List.map_append]
  refine congrArg (kept.map view ++ ·) ?_
  induction each with
  | nil => rfl
  | cons same _ ih => rw [List.map_cons, List.map_cons, ih, same, blind]

theorem stacked_eq (twins : Twins kept first second) (x : Int) : stacked second x = stacked first x := by
  have views : (second.map fun node => (!node.isExecutable && node.position.x = x : Bool)) =
      first.map fun node => (!node.isExecutable && node.position.x = x : Bool) := twins.map_eq fun node id => rfl
  have counted (nodes : List Node) : stacked nodes x =
      (nodes.map fun node => !node.isExecutable && node.position.x = x).countP (· = true) := by
    rw [stacked, List.countP_map, List.countP_eq_length_filter]
    refine congrArg List.length (List.filter_congr fun node _ => ?_)
    simp
  rw [counted, counted, views]

/-- The column of a note by one of the nodes that both have. -/
theorem column_eq (twins : Twins kept first second) {anchor : Option String}
    (anchored : ∀ id ∈ anchor, id ∈ kept.map (·.id)) : column grid second anchor = column grid first anchor := by
  obtain ⟨left, right, rfl, rfl, -⟩ := twins
  cases anchor with
  | none => rfl
  | some id =>
    obtain ⟨node, member, same⟩ := List.mem_map.mp (anchored id rfl)
    obtain ⟨found, first⟩ := Option.isSome_iff_exists.mp
      (List.find?_isSome (p := (·.id = id)).mpr ⟨node, member, decide_eq_true same⟩)
    simp only [column, Option.bind_some, List.find?_append, first, Option.some_or]

end Twins

/-- Sticking the same note to the same nodes once more gives a node that differs in nothing but its identifier. -/
theorem twins_stick {kept : List Node} {first second : State} (identifiers others : Identifiers)
    (twins : Twins kept first.nodes second.nodes) {note : Note} (anchored : ∀ id ∈ note.anchor, id ∈ kept.map (·.id)) :
    Twins kept (stick grid settings identifiers top first note).nodes
      (stick grid settings others top second note).nodes := by
  -- The name, the column and the level of a note are read off the nodes so far, but not off their identifiers.
  have names : second.nodes.map Node.name = first.nodes.map Node.name := twins.map_eq fun node id => rfl
  have own : Twin (noteNode grid settings identifiers top first note) (noteNode grid settings others top second note) := by
    simp only [Twin, noteNode, names, twins.column_eq anchored, twins.stacked_eq]
  obtain ⟨left, right, before, after, each⟩ := twins
  refine ⟨left ++ [noteNode grid settings identifiers top first note],
    right ++ [noteNode grid settings others top second note], ?_, ?_, List.rel_append each (.cons own .nil)⟩
  · rw [nodes_stick, before, List.append_assoc]
  · rw [nodes_stick, after, List.append_assoc]

theorem twins_foldl {kept : List Node} {first second : State} (identifiers others : Identifiers)
    (twins : Twins kept first.nodes second.nodes) {notes : List Note}
    (anchored : ∀ note ∈ notes, ∀ id ∈ note.anchor, id ∈ kept.map (·.id)) :
    Twins kept (notes.foldl (stick grid settings identifiers top) first).nodes
      (notes.foldl (stick grid settings others top) second).nodes := by
  induction notes generalizing first second with
  | nil => exact twins
  | cons note rest ih =>
    obtain ⟨own, later⟩ := List.forall_mem_cons.mp anchored
    rw [List.foldl_cons, List.foldl_cons]
    exact ih (twins_stick identifiers others twins own) later

end Attachment

namespace Workflow

variable {workflow : Workflow}

/-- Taking the annotations off takes off no other node. -/
theorem executableNodes_withoutAnnotations (workflow : Workflow) :
    (Attachment.withoutAnnotations workflow).executableNodes = workflow.executableNodes := by
  simp only [Attachment.withoutAnnotations, executableNodes, List.filter_filter, Bool.and_self]

theorem isExecutable_withoutAnnotations (workflow : Workflow) :
    ∀ node ∈ (Attachment.withoutAnnotations workflow).nodes, node.isExecutable = true :=
  fun _ member => (List.mem_filter.mp member).2

theorem edges_withoutAnnotations (workflow : Workflow) :
    (Attachment.withoutAnnotations workflow).connections.edges = workflow.connections.edges.filter fun edge =>
      edge.source ∉ (workflow.withRole .note).map (·.id) ∧ edge.target ∉ (workflow.withRole .note).map (·.id) := by
  rw [← filter_not_isExecutable]
  exact Connections.edges_foldl_removeNode _ _

/-- What the connections mention once the annotations are taken off are other nodes, if they only mentioned nodes. -/
theorem mem_executableNodes_of_mentions
    (known : ∀ id, workflow.connections.Mentions id → id ∈ workflow.nodes.map (·.id)) {id : String}
    (mentioned : (Attachment.withoutAnnotations workflow).connections.Mentions id) :
    id ∈ workflow.executableNodes.map (·.id) := by
  obtain ⟨before, fresh⟩ := mentioned.of_foldl_removeNode
  obtain ⟨node, member, rfl⟩ := List.mem_map.mp (known id before)
  rw [filter_not_isExecutable] at fresh
  exact List.mem_map_of_mem (List.mem_filter.mpr ⟨member, isExecutable_of_not_mem (·.id) member fresh⟩)

section Notes

variable {settings : NoteSettings} {identifiers : Identifiers} {notes : List Node} {documentation : List Note}
variable (stuck : Attachment.Stuck settings identifiers workflow.nodes notes documentation)
variable (bare : ∀ node ∈ workflow.nodes, node.isExecutable = true)
include stuck bare

/-- Taking off the notes that were stuck to a workflow without annotations gives that workflow back, unless its
connections mention one of them. -/
theorem withoutAnnotations_withNotes (absent : ∀ note ∈ notes, ¬workflow.connections.Mentions note.id) :
    Attachment.withoutAnnotations (workflow.withNotes notes) = workflow := by
  have running : (workflow.withNotes notes).executableNodes = workflow.nodes :=
    (Review.executableNodes_withNotes stuck).trans (List.filter_eq_self.mpr bare)
  have stale : (workflow.withNotes notes).nodes.filter (fun node => !node.isExecutable) = notes := by
    rw [filter_not_isExecutable]
    exact Review.withRole_note_withNotes stuck bare
  rw [Attachment.withoutAnnotations, running, stale]
  refine congrArg (fun connections => { workflow with connections }) (Connections.foldl_removeNode_eq fun id listed => ?_)
  obtain ⟨note, member, rfl⟩ := List.mem_map.mp listed
  exact absent note member

end Notes

theorem executableNodes_attach (configuration : Configuration) (identifiers : Identifiers) (workflow : Workflow)
    (documentation : Documentation) :
    (workflow.attach configuration identifiers documentation).1.executableNodes = workflow.executableNodes := by
  obtain ⟨added, same, stuck⟩ := exists_attach_eq configuration identifiers workflow documentation
  rw [same]
  exact (Review.executableNodes_withNotes stuck).trans (executableNodes_withoutAnnotations workflow)

/-- Notes are stuck behind the other nodes, which stay, under identifiers and names that are new to them and differ; of
the edges, those stay that touch no note of before. If the connections and the notes speak of nodes only, sticking the
same notes again gives these new identifiers and changes nothing else. -/
theorem replace_attach (configuration : Configuration) (identifiers : Identifiers) (workflow : Workflow)
    (documentation : Documentation) :
    let attached := (workflow.attach configuration identifiers documentation).1
    let stale := (workflow.withRole .note).map (·.id)
    let notes := attached.withRole .note
    attached.executableNodes = workflow.executableNodes ∧
      attached.connections.edges =
        workflow.connections.edges.filter (fun edge => edge.source ∉ stale ∧ edge.target ∉ stale) ∧
      attached.nodes = workflow.executableNodes ++ notes ∧
      List.Forall₂ (fun node note => node.step = Attachment.step configuration.notes node.name note) notes
        documentation.notes ∧
      ((notes.map (·.id)).Nodup ∧ ∀ note ∈ notes, note.id ∉ workflow.executableNodes.map (·.id)) ∧
      ((notes.map Node.name).Nodup ∧ ∀ note ∈ notes, note.name ∉ workflow.executableNodes.map Node.name) ∧
      (attached.name, attached.active, attached.executionOrder, attached.tags) =
        (workflow.name, workflow.active, workflow.executionOrder, workflow.tags) ∧
      ((∀ id, workflow.connections.Mentions id → id ∈ workflow.nodes.map (·.id)) →
        (∀ note ∈ documentation.notes, ∀ id ∈ note.anchor, id ∈ workflow.executableNodes.map (·.id)) →
          ∀ others : Identifiers, ∃ renamed,
            (attached.attach configuration others documentation).1 =
                { attached with nodes := workflow.executableNodes ++ renamed } ∧
              List.Forall₂ (fun note twin => twin = { note with id := twin.id }) notes renamed) := by
  obtain ⟨added, same, stuck⟩ := exists_attach_eq configuration identifiers workflow documentation
  have bare := isExecutable_withoutAnnotations workflow
  intro attached stale notes
  have added_eq : notes = added := by
    simp only [notes, attached, same]
    exact Review.withRole_note_withNotes stuck bare
  have nodes : attached.nodes = workflow.executableNodes ++ added := congrArg Workflow.nodes same
  refine ⟨executableNodes_attach configuration identifiers workflow documentation, ?_, added_eq ▸ nodes,
    added_eq ▸ stuck.shown, added_eq ▸ ⟨stuck.nodup_ids, stuck.new_ids⟩,
    added_eq ▸ ⟨stuck.nodup_names, stuck.new_names⟩, ?_, fun known anchored others => ?_⟩
  · simp only [attached, same]
    exact edges_withoutAnnotations workflow
  · simp only [attached, same]
    rfl
  · -- The identifiers of the notes are new to all that the connections still mention, so no edge is lost with the notes.
    have again : Attachment.withoutAnnotations attached = Attachment.withoutAnnotations workflow := by
      simp only [attached, same]
      exact withoutAnnotations_withNotes stuck bare fun note member mentioned =>
        stuck.new_ids note member (mem_executableNodes_of_mentions known mentioned)
    let top := Attachment.top configuration.grid workflow.executableNodes
    have start : Attachment.Twins workflow.executableNodes workflow.executableNodes workflow.executableNodes :=
      ⟨[], [], (List.append_nil _).symm, (List.append_nil _).symm, .nil⟩
    have runs : Attachment.Twins workflow.executableNodes
        (documentation.notes.foldl (Attachment.stick configuration.grid configuration.notes identifiers top)
          { nodes := workflow.executableNodes }).nodes
        (documentation.notes.foldl (Attachment.stick configuration.grid configuration.notes others top)
          { nodes := workflow.executableNodes }).nodes :=
      Attachment.twins_foldl identifiers others start anchored
    obtain ⟨left, right, first, second, twins⟩ := runs
    have left_eq : left = added := List.append_cancel_left (first.symm.trans nodes)
    refine ⟨right, ?_, (left_eq.trans added_eq.symm) ▸ twins⟩
    rw [attach, again]
    simp only [attached, same]
    exact congrArg (fun nodes => { Attachment.withoutAnnotations workflow with nodes }) second

/-- A workflow with a note that an edge leads to. -/
def noted : Workflow where
  name := "Survey"
  nodes := [
    { id := "start", position := { x := 0, y := 0 }
      step := { name := "Start", nodeType := "n8n-nodes-base.manualTrigger", role := .trigger } },
    { id := "memo", position := { x := 0, y := -200 }
      step := { name := "Sticky Note", nodeType := Attachment.stickyNoteType, role := .note } },
    { id := "send", position := { x := 400, y := 0 }, step := { name := "Send", nodeType := Step.passThroughType } }]
  connections := (Connections.empty.connect "start" 0 "memo" 0).connect "start" 0 "send" 0
  active := false
  executionOrder := "v1"
  tags := .empty

/-- Two notes, of which one stands by a node. -/
def remarks : Documentation where
  notes := [
    { anchor := some "send", category := .apiCall, content := "Sends the report.", color := "#32CD32" },
    { anchor := none, category := .custom "remark", content := "Ask before changing.", color := "#FFFFFF" }]
  description := ""

/-- Two notes from a source with one identifier only replace the note and its edge, and are replaced in turn. -/
theorem replace_attach_noted :
    ∃ configuration, Configuration.standard = .ok configuration ∧
      (∀ id, noted.connections.Mentions id → id ∈ noted.nodes.map (·.id)) ∧
        (∀ note ∈ remarks.notes, ∀ id ∈ note.anchor, id ∈ noted.executableNodes.map (·.id)) ∧
          let attached := (noted.attach configuration (fun _ => "note") remarks).1
          attached.connections.edges = [{ source := "start", output := 0, target := "send", input := 0 }] ∧
            attached.nodes = noted.executableNodes ++ attached.withRole .note ∧
              ∃ renamed, (attached.attach configuration (Identifiers.sequential "note") remarks).1 =
                  { attached with nodes := noted.executableNodes ++ renamed } ∧
                List.Forall₂ (fun note twin => twin = { note with id := twin.id }) (attached.withRole .note) renamed := by
  obtain ⟨configuration, accepted⟩ := Configuration.exists_standard
  have known : ∀ id, noted.connections.Mentions id → id ∈ noted.nodes.map (·.id) :=
    Connections.forall_mentions.mpr (by decide)
  have anchored : ∀ note ∈ remarks.notes, ∀ id ∈ note.anchor, id ∈ noted.executableNodes.map (·.id) := by
    decide
  have kept : (noted.connections.edges.filter fun edge =>
      edge.source ∉ (noted.withRole .note).map (·.id) ∧ edge.target ∉ (noted.withRole .note).map (·.id)) =
        [{ source := "start", output := 0, target := "send", input := 0 }] := by decide
  obtain ⟨-, edges, nodes, -, -, -, -, again⟩ := replace_attach configuration (fun _ => "note") noted remarks
  exact ⟨configuration, accepted, known, anchored, edges.trans kept, nodes,
    again known anchored (Identifiers.sequential "note")⟩

end Workflow

end WorkflowSynthesis
