import WorkflowSynthesis.Proofs.Notes.Contents
import WorkflowSynthesis.Proofs.Notes.Replacement

/-!
Writing notes about a workflow that has notes already. The notes about its nodes come out the same as long as no
annotation hands failures on. Notes of the caller stand by the first node of a name, and that may be an annotation: one
that is taken off when the notes are stuck, or one that was not there the time before.
-/

namespace WorkflowSynthesis

/-- Searching what passes a test is searching everything if the search passes over what fails the test. -/
theorem findSome?_filter_eq {α β : Type} {keep : α → Bool} {thinned full : α → Option β} {items : List α}
    (kept : ∀ item ∈ items, keep item = true → thinned item = full item)
    (dropped : ∀ item ∈ items, keep item = false → full item = none) :
    (items.filter keep).findSome? thinned = items.findSome? full := by
  induction items with
  | nil => rfl
  | cons item rest ih =>
    obtain ⟨keptFirst, keptRest⟩ := List.forall_mem_cons.mp kept
    obtain ⟨droppedFirst, droppedRest⟩ := List.forall_mem_cons.mp dropped
    cases passes : keep item with
    | true => rw [List.filter_cons_of_pos passes, List.findSome?_cons, List.findSome?_cons, keptFirst passes,
        ih keptRest droppedRest]
    | false => rw [List.filter_cons_of_neg (by simp [passes]), List.findSome?_cons, droppedFirst passes,
        ih keptRest droppedRest]

section Owners

variable {α β κ : Type} {key : α → κ} {owner : β → Option κ} {items : List α}

/-- Among values that tell the key of the item they come from, those of an item are found by its key. -/
theorem eq_some_iff_mem_filterMap (distinct : (items.map key).Nodup) {give : α → Option β}
    (owned : ∀ item, ∀ value ∈ give item, owner value = some (key item)) {item : α} (member : item ∈ items) {value : β} :
    give item = some value ↔ value ∈ items.filterMap give ∧ owner value = some (key item) := by
  constructor
  · intro given
    exact ⟨List.mem_filterMap.mpr ⟨item, member, given⟩, owned item value given⟩
  · rintro ⟨listed, own⟩
    obtain ⟨other, present, given⟩ := List.mem_filterMap.mp listed
    have keys : key other = key item := Option.some.inj ((owned other value given).symm.trans own)
    rwa [List.inj_on_of_nodup_map distinct present member keys] at given

/-- Items with keys of their own give the same values in all only if each of them gives the same. -/
theorem filterMap_eq_filterMap_iff (distinct : (items.map key).Nodup) {first second : α → Option β}
    (firstOwned : ∀ item, ∀ value ∈ first item, owner value = some (key item))
    (secondOwned : ∀ item, ∀ value ∈ second item, owner value = some (key item)) :
    items.filterMap first = items.filterMap second ↔ ∀ item ∈ items, first item = second item := by
  refine ⟨fun same item member => Option.ext fun value => ?_, List.filterMap_congr⟩
  rw [eq_some_iff_mem_filterMap distinct firstOwned member, eq_some_iff_mem_filterMap distinct secondOwned member, same]

end Owners

/-- Whether a note of the caller is to stand by the node of a name. -/
def DocumentationContext.Asks (context : DocumentationContext) (name : String) : Prop :=
  ∃ custom ∈ context.notes, custom.anchor = some name

namespace Workflow

variable {configuration : Configuration} {workflow : Workflow}

/-- Whether no edge of an annotation hands failures on. -/
def QuietAnnotations (configuration : Configuration) (workflow : Workflow) : Prop :=
  ∀ edge ∈ workflow.connections.edges, ∀ noted ∈ workflow.withRole .note, noted.id = edge.source →
    Documentation.carriesFailures configuration noted edge.output = false

/-- A node that runs shares its identifier with no annotation. -/
theorem not_mem_annotations (unique : (workflow.nodes.map (·.id)).Nodup) {node : Node}
    (member : node ∈ workflow.executableNodes) : node.id ∉ (workflow.withRole .note).map (·.id) := by
  intro annotated
  obtain ⟨noted, listed, same⟩ := List.mem_map.mp annotated
  obtain ⟨present, isNote⟩ := List.mem_filter.mp listed
  obtain ⟨held, runs⟩ := List.mem_filter.mp member
  have equal := List.inj_on_of_nodup_map unique present held same
  subst equal
  simp [Node.isExecutable, of_decide_eq_true isNote, Role.isExecutable] at runs

section Notes

variable {settings : NoteSettings} {identifiers : Identifiers} {notes : List Node} {documentation : List Note}
variable (unique : (workflow.nodes.map (·.id)).Nodup)
variable (stuck : Attachment.Stuck settings identifiers workflow.executableNodes notes documentation)
include unique stuck

theorem nodup_ids_withNotes : (((Attachment.withoutAnnotations workflow).withNotes notes).nodes.map (·.id)).Nodup := by
  refine (Review.nodup_withNotes stuck.nodup_ids ?_).mpr (unique.sublist (List.filter_sublist.map _))
  exact stuck.new_ids

/-- A node that is no annotation is found again. -/
theorem node?_withNotes {id : String} (known : id ∈ workflow.nodes.map (·.id))
    (fresh : id ∉ (workflow.withRole .note).map (·.id)) :
    ((Attachment.withoutAnnotations workflow).withNotes notes).node? id = workflow.node? id := by
  obtain ⟨node, member, rfl⟩ := List.mem_map.mp known
  have runs : node.isExecutable = true := isExecutable_of_not_mem (·.id) member fresh
  have stays : node ∈ ((Attachment.withoutAnnotations workflow).withNotes notes).nodes :=
    List.mem_append_left _ (List.mem_filter.mpr ⟨member, runs⟩)
  rw [node?_of_mem unique member, node?_of_mem (nodup_ids_withNotes unique stuck) stays]

/-- New notes in the place of annotations do not change whose failures lead to a node. -/
theorem guarded?_withNotes (known : ∀ id, workflow.connections.Mentions id → id ∈ workflow.nodes.map (·.id))
    (quiet : workflow.QuietAnnotations configuration) {node : Node} (member : node ∈ workflow.executableNodes) :
    Documentation.guarded? configuration ((Attachment.withoutAnnotations workflow).withNotes notes) node =
      Documentation.guarded? configuration workflow node := by
  have own := not_mem_annotations unique member
  have edges : ((Attachment.withoutAnnotations workflow).withNotes notes).connections.edges.filter (·.target = node.id) =
      (workflow.connections.edges.filter (·.target = node.id)).filter
        fun edge => edge.source ∉ (workflow.withRole .note).map (·.id) := by
    rw [withNotes, edges_withoutAnnotations, List.filter_filter, List.filter_filter]
    refine List.filter_congr fun edge _ => ?_
    by_cases aims : edge.target = node.id <;> simp [aims, own]
  unfold Documentation.guarded?
  refine congrArg (fun found => if Documentation.isHandlerLike configuration node then found else none) ?_
  rw [edges]
  -- An edge that goes comes from an annotation, and hands nothing on.
  refine findSome?_filter_eq (fun edge listed stays => ?_) fun edge listed goes => ?_
  · have present : edge.source ∈ workflow.nodes.map (·.id) :=
      known _ (Connections.mentions_source (List.mem_filter.mp listed).1)
    rw [node?_withNotes unique stuck present (of_decide_eq_true stays)]
  · obtain ⟨noted, isNote, same⟩ := List.mem_map.mp (Decidable.not_not.mp (of_decide_eq_false goes))
    have silent := quiet edge (List.mem_filter.mp listed).1 noted isNote same
    rw [← same, node?_of_mem unique (List.mem_filter.mp isNote).1]
    simp [silent]

end Notes

/-- The node of a name that no annotation has is looked for among the nodes that run. -/
theorem nodeByName?_eq {name : String} (absent : name ∉ (workflow.withRole .note).map Node.name) :
    workflow.nodeByName? name = workflow.executableNodes.find? (·.name = name) := by
  rw [executableNodes, List.find?_filter, nodeByName?, ← List.head?_filter, ← List.head?_filter]
  refine congrArg List.head? (List.filter_congr fun node member => ?_)
  by_cases same : node.name = name
  · have runs : node.isExecutable = true := isExecutable_of_not_mem Node.name member (same ▸ absent)
    simp [runs]
  · simp [same]

/-- A note of the caller is the same again if and only if its node is. -/
theorem customNote_eq_iff {other : Workflow} {custom : CustomNote} :
    Documentation.customNote configuration other custom = Documentation.customNote configuration workflow custom ↔
      ∀ name ∈ custom.anchor, (other.nodeByName? name).map (·.id) = (workflow.nodeByName? name).map (·.id) := by
  cases named : custom.anchor with
  | none => simp [Documentation.customNote, named]
  | some name => simp [Documentation.customNote, Documentation.note, named]

theorem forall_asks {context : DocumentationContext} {property : String → Prop} :
    (∀ name, context.Asks name → property name) ↔ ∀ custom ∈ context.notes, ∀ name ∈ custom.anchor, property name :=
  ⟨fun all custom listed name asked => all name ⟨custom, listed, asked⟩,
    fun all name ⟨custom, listed, asked⟩ => all custom listed name asked⟩

/-- Two workflows with one name and the same nodes that run are documented alike if and only if each of these nodes gets
the same note and each note of the caller has the same node. -/
theorem ofWorkflow_eq_iff {other : Workflow} {context : DocumentationContext} (named : other.name = workflow.name)
    (running : other.executableNodes = workflow.executableNodes)
    (unique : (workflow.executableNodes.map (·.id)).Nodup) :
    Documentation.ofWorkflow configuration other context = Documentation.ofWorkflow configuration workflow context ↔
      (∀ node ∈ workflow.executableNodes, Documentation.nodeNote? configuration other node =
          Documentation.nodeNote? configuration workflow node) ∧
        ∀ name, context.Asks name →
          (other.nodeByName? name).map (·.id) = (workflow.nodeByName? name).map (·.id) := by
  have start : Documentation.startNote configuration other context =
      Documentation.startNote configuration workflow context := Documentation.startNote_congr named running
  have description : (Documentation.ofWorkflow configuration other context).description =
      (Documentation.ofWorkflow configuration workflow context).description :=
    Documentation.description_congr named running
  have notes : Documentation.ofWorkflow configuration other context =
        Documentation.ofWorkflow configuration workflow context ↔
      (Documentation.ofWorkflow configuration other context).notes =
        (Documentation.ofWorkflow configuration workflow context).notes := by
    refine ⟨congrArg Documentation.notes, fun same => ?_⟩
    exact congrArg₂ Documentation.mk same description
  have owned (workflow : Workflow) (node : Node) (note : Note)
      (found : note ∈ Documentation.nodeNote? configuration workflow node) : note.anchor = some node.id :=
    Documentation.anchor_nodeNote? found
  have length : (context.notes.map (Documentation.customNote configuration other)).length =
      (context.notes.map (Documentation.customNote configuration workflow)).length := by
    rw [List.length_map, List.length_map]
  rw [notes, Documentation.notes_ofWorkflow, Documentation.notes_ofWorkflow, running, start,
    ← filterMap_eq_filterMap_iff unique (owned other) (owned workflow), forall_asks]
  have customs : (∀ custom ∈ context.notes, ∀ name ∈ custom.anchor,
        (other.nodeByName? name).map (·.id) = (workflow.nodeByName? name).map (·.id)) ↔
      context.notes.map (Documentation.customNote configuration other) =
        context.notes.map (Documentation.customNote configuration workflow) := by
    rw [List.map_inj_left]
    exact forall₂_congr fun custom _ => customNote_eq_iff.symm
  rw [customs]
  refine ⟨fun same => List.append_inj' (List.cons.inj same).2 length, ?_⟩
  rintro ⟨nodes, callers⟩
  rw [nodes, callers]

/-- The notes of a workflow stand by nodes that run, apart from those of the caller. -/
theorem anchors_iff {context : DocumentationContext} {ids : List String}
    (present : ∀ node ∈ workflow.executableNodes, node.id ∈ ids) :
    (∀ note ∈ (Documentation.ofWorkflow configuration workflow context).notes, ∀ id ∈ note.anchor, id ∈ ids) ↔
      ∀ name, context.Asks name → ∀ node ∈ workflow.nodeByName? name, node.id ∈ ids := by
  have start : ∀ id ∈ (Documentation.startNote configuration workflow context).anchor, id ∈ ids := by
    intro id anchored
    obtain ⟨node, found, rfl⟩ := Option.map_eq_some_iff.mp anchored
    rw [workflow.trigger?_eq] at found
    exact present node (List.mem_of_find?_eq_some found)
  have nodes : ∀ note ∈ workflow.executableNodes.filterMap (Documentation.nodeNote? configuration workflow),
      ∀ id ∈ note.anchor, id ∈ ids := by
    intro note listed id anchored
    obtain ⟨node, member, found⟩ := List.mem_filterMap.mp listed
    rw [Documentation.anchor_nodeNote? found, Option.mem_some_iff] at anchored
    exact anchored ▸ present node member
  rw [Documentation.notes_ofWorkflow, List.forall_mem_cons, List.forall_mem_append, and_iff_right start,
    and_iff_right nodes, List.forall_mem_map, forall_asks]
  refine forall₂_congr fun custom _ => ?_
  simp only [Documentation.customNote, Documentation.note, Option.mem_def, Option.map_eq_some_iff,
    Option.bind_eq_some_iff]
  constructor
  · rintro all name named node found
    exact all node.id ⟨node, ⟨name, named, found⟩, rfl⟩
  · rintro all id ⟨node, ⟨name, named, found⟩, rfl⟩
    exact all name named node found

/-- Notes come out the same once they are stuck if and only if each node gets the same note again and each note of the
caller has the same node again. The former holds unless an annotation hands failures on; the latter holds, and every
note stands by a node that is there, unless a note of the caller asks for the name of an annotation of before or of
after. -/
theorem annotate_annotate (configuration : Configuration) (identifiers others : Identifiers) {workflow : Workflow}
    (unique : (workflow.nodes.map (·.id)).Nodup)
    (known : ∀ id, workflow.connections.Mentions id → id ∈ workflow.nodes.map (·.id)) (context : DocumentationContext) :
    let first := workflow.annotate configuration identifiers context
    let second := first.workflow.annotate configuration others context
    (second.documentation = first.documentation ↔
        (∀ node ∈ workflow.executableNodes, Documentation.nodeNote? configuration first.workflow node =
            Documentation.nodeNote? configuration workflow node) ∧
          ∀ name, context.Asks name →
            (first.workflow.nodeByName? name).map (·.id) = (workflow.nodeByName? name).map (·.id)) ∧
      ((∀ note ∈ first.documentation.notes, ∀ id ∈ note.anchor, id ∈ first.workflow.nodes.map (·.id)) ↔
        ∀ name, context.Asks name → ∀ node ∈ workflow.nodeByName? name,
          node.id ∈ first.workflow.nodes.map (·.id)) ∧
      (workflow.QuietAnnotations configuration → ∀ node ∈ workflow.executableNodes,
        Documentation.nodeNote? configuration first.workflow node =
          Documentation.nodeNote? configuration workflow node) ∧
      ((∀ name, context.Asks name →
          name ∉ (workflow.withRole .note).map Node.name ∧ name ∉ (first.workflow.withRole .note).map Node.name) →
        ∀ name, context.Asks name →
          (first.workflow.nodeByName? name).map (·.id) = (workflow.nodeByName? name).map (·.id) ∧
            ∀ node ∈ workflow.nodeByName? name, node.id ∈ first.workflow.nodes.map (·.id)) := by
  intro first second
  have running : first.workflow.executableNodes = workflow.executableNodes := executableNodes_attach _ _ _ _
  have named : first.workflow.name = workflow.name := rfl
  have present : ∀ node ∈ workflow.executableNodes, node.id ∈ first.workflow.nodes.map (·.id) := fun node member =>
    List.mem_map_of_mem (List.mem_filter.mp (running ▸ member)).1
  refine ⟨ofWorkflow_eq_iff named running (unique.sublist (List.filter_sublist.map _)), anchors_iff present,
    fun quiet node member => ?_, fun free name asked => ?_⟩
  · refine Documentation.nodeNote?_congr ?_
    obtain ⟨added, same, stuck⟩ := exists_attach_eq configuration identifiers workflow
      (Documentation.ofWorkflow configuration workflow context)
    have annotated : first.workflow = (Attachment.withoutAnnotations workflow).withNotes added := same
    rw [annotated]
    exact guarded?_withNotes unique stuck known quiet member
  · obtain ⟨before, after⟩ := free name asked
    have found : first.workflow.nodeByName? name = workflow.nodeByName? name := by
      rw [nodeByName?_eq before, nodeByName?_eq after, running]
    refine ⟨congrArg (Option.map (·.id)) found, fun node isFound => ?_⟩
    rw [nodeByName?_eq before] at isFound
    exact present node (List.mem_of_find?_eq_some isFound)

/-- Where no node that runs has the name, the first note is called like that. -/
theorem stickyNote_mem_attach {identifiers : Identifiers} {documentation : Documentation}
    (free : "Sticky Note" ∉ workflow.executableNodes.map Node.name) (noted : documentation.notes ≠ []) :
    "Sticky Note" ∈ (workflow.attach configuration identifiers documentation).1.nodes.map Node.name := by
  obtain ⟨note, rest, notes⟩ := List.exists_cons_of_ne_nil noted
  obtain ⟨added, nodes, -⟩ := Attachment.stuck_foldl configuration.grid configuration.notes identifiers
    (Attachment.top configuration.grid workflow.executableNodes)
    (Attachment.stick configuration.grid configuration.notes identifiers
      (Attachment.top configuration.grid workflow.executableNodes) { nodes := workflow.executableNodes } note) rest
  have attached : (workflow.attach configuration identifiers documentation).1.nodes = workflow.executableNodes ++
      [Attachment.noteNode configuration.grid configuration.notes identifiers
        (Attachment.top configuration.grid workflow.executableNodes) { nodes := workflow.executableNodes } note] ++
        added := by
    rw [Attachment.nodes_stick, ← List.foldl_cons, ← notes] at nodes
    exact nodes
  have own : Free.name (workflow.executableNodes.map Node.name) "Sticky Note" = "Sticky Note" := by
    rw [Free.name, if_neg (by simpa using free)]
  rw [attached]
  refine List.mem_map.mpr ⟨_, List.mem_append_left _ (List.mem_append_right _ (List.mem_singleton_self _)), own⟩

/-- The names of notes begin alike. -/
theorem exists_name_of_mem_attach {identifiers : Identifiers} {documentation : Documentation} {note : Node}
    (member : note ∈ (workflow.attach configuration identifiers documentation).1.withRole .note) :
    ∃ suffix, note.name = "Sticky Note" ++ suffix := by
  obtain ⟨added, same, stuck⟩ := exists_attach_eq configuration identifiers workflow documentation
  rw [same, Review.withRole_note_withNotes stuck (isExecutable_withoutAnnotations workflow)] at member
  rcases stuck.numbered note member with named | ⟨number, -, named⟩
  · exact ⟨"", named⟩
  · exact ⟨" " ++ toString number, by rw [named, Free.numbered, String.append_assoc]⟩

/-- A workflow without notes. -/
def unnoted : Workflow where
  name := "Survey"
  nodes := [
    { id := "start", position := { x := 0, y := 0 }
      step := { name := "Start", nodeType := "n8n-nodes-base.manualTrigger", role := .trigger } },
    { id := "send", position := { x := 400, y := 0 }, step := { name := "Send", nodeType := Step.passThroughType } }]
  connections := Connections.empty.connect "start" 0 "send" 0
  active := false
  executionOrder := "v1"
  tags := .empty

/-- A request for one note, by the node of a name. -/
def noteBy (name : String) : DocumentationContext where
  notes := [{ category := "remark", description := "Ask before changing.", anchor := some name }]

theorem asks_noteBy {name other : String} : (noteBy name).Asks other ↔ other = name := by
  simp [DocumentationContext.Asks, noteBy, eq_comm]

/-- A note by the sticky note stands nowhere the first time and by the first note the second time; a note by a node that
runs stands there both times. -/
theorem annotate_annotate_unnoted :
    ∃ configuration, Configuration.standard = .ok configuration ∧ (unnoted.nodes.map (·.id)).Nodup ∧
      (∀ id, unnoted.connections.Mentions id → id ∈ unnoted.nodes.map (·.id)) ∧
        (let first := unnoted.annotate configuration (Identifiers.sequential "node") (noteBy "Sticky Note")
          let second := first.workflow.annotate configuration (Identifiers.sequential "note") (noteBy "Sticky Note")
          second.documentation ≠ first.documentation) ∧
          let first := unnoted.annotate configuration (Identifiers.sequential "node") (noteBy "Send")
          let second := first.workflow.annotate configuration (Identifiers.sequential "note") (noteBy "Send")
          second.documentation = first.documentation ∧
            ∀ note ∈ first.documentation.notes, ∀ id ∈ note.anchor, id ∈ first.workflow.nodes.map (·.id) := by
  obtain ⟨configuration, accepted⟩ := Configuration.exists_standard
  have unique : (unnoted.nodes.map (·.id)).Nodup := by decide
  have known : ∀ id, unnoted.connections.Mentions id → id ∈ unnoted.nodes.map (·.id) :=
    Connections.forall_mentions.mpr (by decide)
  have bare : unnoted.withRole .note = [] := by decide
  refine ⟨configuration, accepted, unique, known, fun same => ?_, ?_⟩
  · obtain ⟨documented, -⟩ := annotate_annotate configuration (Identifiers.sequential "node")
      (Identifiers.sequential "note") unique known (noteBy "Sticky Note")
    have found := (documented.mp same).2 "Sticky Note" (asks_noteBy.mpr rfl)
    have noted : "Sticky Note" ∈ (unnoted.annotate configuration (Identifiers.sequential "node")
        (noteBy "Sticky Note")).workflow.nodes.map Node.name :=
      stickyNote_mem_attach (by decide) (List.cons_ne_nil _ _)
    obtain ⟨note, member, named⟩ := List.mem_map.mp noted
    have unnamed : (unnoted.nodeByName? "Sticky Note").map (·.id) = none := by decide
    rw [unnamed, Option.map_eq_none_iff, nodeByName?, List.find?_eq_none] at found
    exact found note member (decide_eq_true named)
  · obtain ⟨documented, anchors, nodes, callers⟩ := annotate_annotate configuration (Identifiers.sequential "node")
      (Identifiers.sequential "note") unique known (noteBy "Send")
    have quiet : unnoted.QuietAnnotations configuration := by
      intro edge _ noted listed
      rw [bare] at listed
      cases listed
    have free : ∀ name, (noteBy "Send").Asks name → name ∉ (unnoted.withRole .note).map Node.name ∧
        name ∉ ((unnoted.annotate configuration (Identifiers.sequential "node")
          (noteBy "Send")).workflow.withRole .note).map Node.name := by
      intro name asked
      rw [asks_noteBy.mp asked, bare]
      refine ⟨List.not_mem_nil, fun listed => ?_⟩
      obtain ⟨note, member, named⟩ := List.mem_map.mp listed
      obtain ⟨suffix, begins⟩ := exists_name_of_mem_attach member
      have letters := congrArg String.toList (named.symm.trans begins)
      simp at letters
    exact ⟨documented.mpr ⟨nodes quiet, fun name asked => (callers free name asked).1⟩,
      anchors.mpr fun name asked => (callers free name asked).2⟩

end Workflow

end WorkflowSynthesis
