import WorkflowSynthesis.Proofs.Notes.Attachment
import WorkflowSynthesis.Proofs.Review.Drawn

/-!
What notes change in a review. They are passed over by the rules on nodes that run, and have identifiers, names, types
and parameters of their own that no other rule objects to. Only an edge that leads nowhere may come to lead to a note.
-/

namespace WorkflowSynthesis

open Attachment (Stuck stickyNoteType)

theorem Text.isBlankText_append (text suffix : String) :
    isBlankText (text ++ suffix) = (isBlankText text && isBlankText suffix) := by
  rw [isBlankText, String.toList_append, List.all_append]
  rfl

namespace Attachment.Stuck

variable {settings : NoteSettings} {identifiers : Identifiers} {before added : List Node} {notes : List Note}

theorem exists_step (stuck : Stuck settings identifiers before added notes) {node : Node} (member : node ∈ added) :
    ∃ note, node.step = step settings node.name note := by
  have each := stuck.shown.imp fun node note shows =>
    And.intro (⟨note, shows⟩ : ∃ note, node.step = step settings node.name note) shows
  exact ((List.forall₂_and_left _ _).mp each).1 node member

theorem role (stuck : Stuck settings identifiers before added notes) {node : Node} (member : node ∈ added) :
    node.role = .note := by
  obtain ⟨note, shows⟩ := stuck.exists_step member
  rw [Node.role, shows]
  rfl

theorem nodeType (stuck : Stuck settings identifiers before added notes) {node : Node} (member : node ∈ added) :
    node.nodeType = stickyNoteType := by
  obtain ⟨note, shows⟩ := stuck.exists_step member
  rw [Node.nodeType, shows]
  rfl

theorem credentials (stuck : Stuck settings identifiers before added notes) {node : Node} (member : node ∈ added) :
    node.step.credentials.entries = [] := by
  obtain ⟨note, shows⟩ := stuck.exists_step member
  rw [shows]
  rfl

theorem parameters (stuck : Stuck settings identifiers before added notes) {node : Node} (member : node ∈ added) :
    (Json.object node.step.parameters).Proper ∧ (Json.object node.step.parameters).depth ≤ 1 := by
  obtain ⟨note, shows⟩ := stuck.exists_step member
  rw [shows, step]
  exact ⟨Json.proper_object (by simp [Members.keys]) (by simp), Json.depth_object_le_iff.mpr (by simp)⟩

theorem visible (stuck : Stuck settings identifiers before added notes)
    (visible : ∀ index, Text.isBlankText (identifiers index) = false) {node : Node} (member : node ∈ added) :
    Text.isBlankText node.id = false := by
  obtain ⟨index, same | ⟨number, same⟩⟩ := stuck.drawn node member
  · rw [same]
    exact visible index
  · rw [same, Free.numbered, Text.isBlankText_append, Text.isBlankText_append, visible index]
    rfl

/-- The standard rules accept the names of notes, of which there are not too many. -/
theorem legal {configuration : Configuration} (follows : configuration.Follows {})
    (stuck : Stuck settings identifiers before added notes) (few : before.length + notes.length < 2 ^ 64) {node : Node}
    (member : node ∈ added) : configuration.naming.fault? node.name = none := by
  have matched : Pattern.standardName.matchesText "Sticky Note" = true :=
    Pattern.matchesText_standardName.mpr ⟨'S', "ticky Note".toList, by decide, by decide, by decide⟩
  have length : ("Sticky Note" : String).length = 11 := rfl
  rcases stuck.numbered node member with same | ⟨number, most, same⟩
  · rw [same]
    exact follows.fault?_eq_none matched (by omega)
  · have short := Free.length_numbered_le "Sticky Note" (by decide : 0 < 20) (by omega : number < 10 ^ 20)
    rw [same]
    exact follows.fault?_eq_none (Free.matchesText_numbered matched number) (by omega)

end Attachment.Stuck

namespace Review

variable {configuration : Configuration} {workflow : Workflow} {settings : NoteSettings} {identifiers : Identifiers}
variable {added : List Node} {notes : List Note}

/-- What differs among the nodes and among the notes differs among all if no note repeats what a node has. -/
theorem nodup_withNotes {view : Node → String} (distinct : (added.map view).Nodup)
    (new : ∀ node ∈ added, view node ∉ workflow.nodes.map view) :
    ((workflow.withNotes added).nodes.map view).Nodup ↔ (workflow.nodes.map view).Nodup := by
  rw [Workflow.withNotes, List.map_append, List.nodup_append]
  refine ⟨fun all => all.1, fun nodes => ⟨nodes, distinct, fun value held other noted same => ?_⟩⟩
  obtain ⟨node, member, rfl⟩ := List.mem_map.mp noted
  exact new node member (same ▸ held)

section Running

variable (stuck : Stuck settings identifiers workflow.nodes added notes)
include stuck

theorem executableNodes_withNotes : (workflow.withNotes added).executableNodes = workflow.executableNodes := by
  have idle : added.filter Node.isExecutable = [] := List.filter_eq_nil_iff.mpr fun node member => by
    simp [Node.isExecutable, stuck.role member, Role.isExecutable]
  rw [Workflow.executableNodes, Workflow.withNotes, List.filter_append, idle, List.append_nil]
  rfl

theorem withRole_withNotes {role : Role} (runs : role ≠ .note) :
    (workflow.withNotes added).withRole role = workflow.withRole role := by
  have others : added.filter (·.role = role) = [] := List.filter_eq_nil_iff.mpr fun node member => by
    simp [stuck.role member, runs.symm]
  rw [Workflow.withRole, Workflow.withNotes, List.filter_append, others, List.append_nil]
  rfl

/-- An edge may lead to a note, but to nothing of another type than before. -/
theorem leadsToType_withNotes {nodeType : String} (other : nodeType ≠ stickyNoteType) (node : Node) :
    leadsToType (workflow.withNotes added) nodeType node = leadsToType workflow nodeType node := by
  have untyped : ∀ id, (added.find? (·.id = id)).any (·.nodeType = nodeType) = false := by
    intro id
    rw [Option.any_eq_false]
    intro note found
    simp [stuck.nodeType (List.mem_of_find?_eq_some found), other.symm]
  unfold leadsToType
  refine congrArg (fun leads => List.any _ leads) (funext fun edge => ?_)
  have found : (workflow.withNotes added).node? edge.target =
      (workflow.node? edge.target).or (added.find? (·.id = edge.target)) := List.find?_append
  rw [found]
  cases workflow.node? edge.target with
  | none => exact untyped edge.target
  | some node => rfl

/-- Rules on nodes that run see no notes. -/
theorem check_withNotes_running : ∀ rule ∈ [Rule.triggerPresent, .actionPresent, .ensureAllNodesConnected,
      .allActionsImplemented, .checkMissingParameters, .minimumNodes, .maximumNodes],
    check configuration (workflow.withNotes added) none rule = check configuration workflow none rule := by
  have running := executableNodes_withNotes stuck
  have triggers : (workflow.withNotes added).withRole .trigger = workflow.withRole .trigger :=
    withRole_withNotes stuck (by decide)
  have actions : (workflow.withNotes added).withRole .action = workflow.withRole .action :=
    withRole_withNotes stuck (by decide)
  have edges : (workflow.withNotes added).connections = workflow.connections := rfl
  have count : (workflow.withNotes added).executableCount = workflow.executableCount := congrArg List.length running
  simp only [List.forall_mem_cons, List.not_mem_nil, false_implies, implies_true, and_true, check]
  unfold rolePresent ensureAllNodesConnected allActionsImplemented checkMissingParameters minimumNodes maximumNodes
  rw [running, triggers, actions, edges, count]
  exact ⟨rfl, rfl, rfl, rfl, rfl, rfl, rfl⟩

theorem errorHandlingIncluded_withNotes
    (other : ∀ pattern ∈ configuration.failures.failurePattern?, pattern.nodeType ≠ stickyNoteType) :
    errorHandlingIncluded configuration (workflow.withNotes added) = errorHandlingIncluded configuration workflow := by
  unfold errorHandlingIncluded
  rw [executableNodes_withNotes stuck]
  cases found : configuration.failures.failurePattern? with
  | none => rfl
  | some pattern =>
    have leads : leadsToType (workflow.withNotes added) pattern.nodeType = leadsToType workflow pattern.nodeType :=
      funext (leadsToType_withNotes stuck (other pattern found))
    simp only [leads]

end Running

section Fresh

variable (stuck : Stuck settings identifiers workflow.nodes added notes)
include stuck

theorem validateCredentialReferences_withNotes :
    validateCredentialReferences configuration (workflow.withNotes added) =
      validateCredentialReferences configuration workflow := by
  have bare : (added.flatMap fun node => node.step.credentials.entries.map (node, ·)) = [] :=
    List.flatMap_eq_nil_iff.mpr fun node member => by simp [stuck.credentials member]
  unfold validateCredentialReferences
  rw [Workflow.withNotes, List.flatMap_append, bare, List.append_nil]

theorem checkNodeIdUniqueness_withNotes (visible : ∀ index, Text.isBlankText (identifiers index) = false) :
    (checkNodeIdUniqueness (workflow.withNotes added)).passed = (checkNodeIdUniqueness workflow).passed := by
  rw [Bool.eq_iff_iff, checkNodeIdUniqueness_passed, checkNodeIdUniqueness_passed,
    nodup_withNotes stuck.nodup_ids stuck.new_ids]
  refine and_congr_right fun _ => ?_
  rw [Workflow.withNotes, List.forall_mem_append]
  exact and_iff_left fun node member => stuck.visible visible member

theorem validateNodeNames_withNotes (follows : configuration.Follows {})
    (few : workflow.nodes.length + notes.length < 2 ^ 64) :
    (validateNodeNames configuration (workflow.withNotes added)).passed =
      (validateNodeNames configuration workflow).passed := by
  rw [Bool.eq_iff_iff, validateNodeNames_passed, validateNodeNames_passed,
    nodup_withNotes stuck.nodup_names stuck.new_names]
  refine and_congr_left fun _ => ?_
  rw [Workflow.withNotes, List.forall_mem_append]
  exact and_iff_left fun node member => stuck.legal follows few member

theorem validateJsonSyntax_withNotes (proper : ∀ node ∈ workflow.nodes, (Json.object node.step.parameters).Proper) :
    (validateJsonSyntax configuration (workflow.withNotes added)).passed =
      (validateJsonSyntax configuration workflow).passed := by
  have allProper : ∀ node ∈ (workflow.withNotes added).nodes, (Json.object node.step.parameters).Proper :=
    List.forall_mem_append.mpr ⟨proper, fun node member => (stuck.parameters member).1⟩
  have most : maximumDepth = 124 + 3 := rfl
  rw [Bool.eq_iff_iff, validateJsonSyntax_passed allProper, validateJsonSyntax_passed proper, most,
    Workflow.depth_toJson_le_iff (by decide), Workflow.depth_toJson_le_iff (by decide), Workflow.withNotes,
    List.forall_mem_append]
  exact and_iff_left fun node member => (stuck.parameters member).2.trans (by decide)

/-- Without annotations of its own, a workflow has the annotations that were added. -/
theorem withRole_note_withNotes (bare : ∀ node ∈ workflow.nodes, node.isExecutable = true) :
    (workflow.withNotes added).withRole .note = added := by
  have unnoted : workflow.nodes.filter (·.role = .note) = [] := List.filter_eq_nil_iff.mpr fun node member isNote => by
    have runs := bare node member
    simp [Node.isExecutable, of_decide_eq_true isNote, Role.isExecutable] at runs
  have all : added.filter (·.role = .note) = added :=
    List.filter_eq_self.mpr fun node member => decide_eq_true (stuck.role member)
  rw [Workflow.withRole, Workflow.withNotes, List.filter_append, unnoted, all, List.nil_append]

end Fresh

theorem verifyConnectionIntegrity_passed_iff :
    (verifyConnectionIntegrity workflow).passed = true ↔
      ∀ id, workflow.connections.Mentions id → id ∈ workflow.nodes.map (·.id) := by
  rw [verifyConnectionIntegrity_passed, Connections.forall_mentions]

/-- The connections of a workflow resolve also where they lead to notes. -/
theorem verifyConnectionIntegrity_withNotes :
    (verifyConnectionIntegrity (workflow.withNotes added)).passed = true ↔
      ∀ id, workflow.connections.Mentions id → id ∈ workflow.nodes.map (·.id) ∨ ∃ note ∈ added, note.id = id := by
  rw [verifyConnectionIntegrity_passed_iff]
  simp only [Workflow.withNotes, List.map_append, List.mem_append, List.mem_map]

/-- Notes change no verdict of the standard rules but one. -/
theorem check_withNotes (follows : configuration.Follows {})
    (stuck : Stuck settings identifiers workflow.nodes added notes)
    (visible : ∀ index, Text.isBlankText (identifiers index) = false)
    (proper : ∀ node ∈ workflow.nodes, (Json.object node.step.parameters).Proper)
    (few : workflow.nodes.length + notes.length < 2 ^ 64) {rule : Rule} (other : rule ≠ .verifyConnectionIntegrity) :
    (check configuration (workflow.withNotes added) none rule).passed =
      (check configuration workflow none rule).passed := by
  cases rule with
  | parseTextDescription | identifyComponents | mapBusinessLogic | planErrorHandling => rfl
  | validateJsonSyntax =>
    rw [check, check]
    exact validateJsonSyntax_withNotes stuck proper
  | checkNodeIdUniqueness => exact checkNodeIdUniqueness_withNotes stuck visible
  | verifyConnectionIntegrity => exact absurd rfl other
  | validateCredentialReferences => exact congrArg Verdict.passed (validateCredentialReferences_withNotes stuck)
  | validateNodeNames => exact validateNodeNames_withNotes stuck follows few
  | errorHandlingIncluded =>
    refine congrArg Verdict.passed (errorHandlingIncluded_withNotes stuck fun pattern found => ?_)
    rw [(Plan.failurePattern_standard follows found).1]
    decide
  | triggerPresent | actionPresent | ensureAllNodesConnected | allActionsImplemented | checkMissingParameters
    | minimumNodes | maximumNodes => exact congrArg Verdict.passed (check_withNotes_running stuck _ (by simp))

end Review

namespace Workflow

/-- How a rule ends in the review of a workflow alone. -/
def outcome? (configuration : Configuration) (workflow : Workflow) (rule : Rule) : Option Bool :=
  ((workflow.review configuration none).verdict? rule).map (·.passed)

theorem outcome?_eq (configuration : Configuration) (workflow : Workflow) (rule : Rule) :
    workflow.outcome? configuration rule = some (Review.check configuration workflow none rule).passed := by
  rw [outcome?, Review.verdict?_review, Option.map_some]

/-- With numbered identifiers, sticking notes to a workflow without annotations changes no verdict of the standard
rules but that on connections, and this one only if a note has an identifier that the connections mention. They resolve
then where they lead to notes. -/
theorem review_attach {configuration : Configuration} (accepted : Configuration.standard = .ok configuration)
    {workflow : Workflow} (bare : ∀ node ∈ workflow.nodes, node.isExecutable = true)
    (proper : ∀ node ∈ workflow.nodes, (Json.object node.step.parameters).Proper) (documentation : Documentation)
    (few : workflow.nodes.length + documentation.notes.length < 2 ^ 64) (stem : String) (drawn : Nat) :
    let attached := (workflow.attach configuration ((Identifiers.sequential stem).after drawn) documentation).1
    (∀ rule, (rule = .verifyConnectionIntegrity →
        ∀ note ∈ attached.withRole .note, ¬workflow.connections.Mentions note.id) →
          attached.outcome? configuration rule = workflow.outcome? configuration rule) ∧
      (attached.outcome? configuration .verifyConnectionIntegrity = some true ↔
        ∀ id, workflow.connections.Mentions id →
          id ∈ workflow.nodes.map (·.id) ∨ ∃ note ∈ attached.withRole .note, note.id = id) := by
  have follows := Configuration.follows_of_ofSettings accepted
  have visible : ∀ index, Text.isBlankText ((Identifiers.sequential stem).after drawn index) = false := fun index =>
    (Identifiers.proper_sequential stem).visible (drawn + index)
  obtain ⟨added, same, stuck⟩ :=
    exists_attach_eq configuration ((Identifiers.sequential stem).after drawn) workflow documentation
  rw [Attachment.withoutAnnotations_eq bare] at same
  rw [show workflow.executableNodes = workflow.nodes from List.filter_eq_self.mpr bare] at stuck
  intro attached
  have notes : attached.withRole .note = added := by
    simp only [attached, same]
    exact Review.withRole_note_withNotes stuck bare
  simp only [outcome?_eq, Option.some.injEq, notes]
  simp only [attached, same]
  refine ⟨fun rule apart => ?_, Review.verifyConnectionIntegrity_withNotes⟩
  by_cases connections : rule = .verifyConnectionIntegrity
  · subst connections
    refine Bool.eq_iff_iff.mpr (Review.verifyConnectionIntegrity_withNotes.trans ?_)
    refine Iff.trans ?_ Review.verifyConnectionIntegrity_passed_iff.symm
    refine forall₂_congr fun id mentioned => or_iff_left ?_
    rintro ⟨note, member, rfl⟩
    exact apart rfl note member mentioned
  · exact Review.check_withNotes follows stuck visible proper few connections

/-- A workflow with an edge that leads nowhere, to an identifier that has not been drawn yet. -/
def loose : Workflow where
  name := "Survey"
  nodes := [
    { id := "start", position := { x := 0, y := 0 }
      step := { name := "Start", nodeType := "n8n-nodes-base.manualTrigger", role := .trigger } },
    { id := "send", position := { x := 400, y := 0 }, step := { name := "Send", nodeType := Step.passThroughType } }]
  connections := (Connections.empty.connect "start" 0 "send" 0).connect "send" 0 "node-0001" 0
  active := false
  executionOrder := "v1"
  tags := .empty

/-- A single note, which stands by no node. -/
def remark : Documentation where
  notes := [{ anchor := none, category := .start, content := "Begins here.", color := "#FFD700" }]
  description := ""

theorem bare_loose : ∀ node ∈ loose.nodes, node.isExecutable = true := by decide

theorem exists_note_attach_loose (configuration : Configuration) :
    ∃ note ∈ (loose.attach configuration ((Identifiers.sequential "node").after 0) remark).1.withRole .note,
      note.id = "node-0001" := by
  have nodes : (loose.attach configuration ((Identifiers.sequential "node").after 0) remark).1.nodes = loose.nodes ++
      [Attachment.noteNode configuration.grid configuration.notes ((Identifiers.sequential "node").after 0)
        (Attachment.top configuration.grid loose.nodes) { nodes := loose.nodes }
        { anchor := none, category := .start, content := "Begins here.", color := "#FFD700" }] := by
    simp only [attach, Attachment.withoutAnnotations_eq bare_loose, remark, List.foldl_cons, List.foldl_nil,
      Attachment.nodes_stick]
  have first : (Free.identifier (loose.nodes.map (·.id)) (((Identifiers.sequential "node").after 0).after 0)).1 =
      "node-0001" := by decide +kernel
  refine ⟨_, List.mem_filter.mpr ⟨nodes ▸ List.mem_append_right _ (List.mem_singleton_self _), rfl⟩, ?_⟩
  rw [Attachment.id_noteNode]
  exact first

/-- The note takes the identifier that the edge leads to. -/
theorem review_attach_loose :
    ∃ configuration, Configuration.standard = .ok configuration ∧
      (∀ node ∈ loose.nodes, node.isExecutable = true) ∧
        (∀ node ∈ loose.nodes, (Json.object node.step.parameters).Proper) ∧
          loose.nodes.length + remark.notes.length < 2 ^ 64 ∧
            let attached := (loose.attach configuration ((Identifiers.sequential "node").after 0) remark).1
            (∀ rule, rule ≠ .verifyConnectionIntegrity →
                attached.outcome? configuration rule = loose.outcome? configuration rule) ∧
              attached.outcome? configuration .verifyConnectionIntegrity = some true ∧
                loose.outcome? configuration .verifyConnectionIntegrity = some false := by
  obtain ⟨configuration, accepted⟩ := Configuration.exists_standard
  have proper : ∀ node ∈ loose.nodes, (Json.object node.step.parameters).Proper := by decide
  have few : loose.nodes.length + remark.notes.length < 2 ^ 64 := by decide
  have sources : ∀ source ∈ loose.connections.outputs.keys, source ∈ loose.nodes.map (·.id) := by decide +kernel
  have targets : ∀ edge ∈ loose.connections.edges, edge.target ∈ loose.nodes.map (·.id) ∨ edge.target = "node-0001" := by
    decide +kernel
  have failed : (Review.verifyConnectionIntegrity loose).passed = false := by decide +kernel
  obtain ⟨others, connections⟩ := review_attach accepted bare_loose proper remark few "node" 0
  refine ⟨configuration, accepted, bare_loose, proper, few, fun rule other => others rule fun same => absurd same other,
    connections.mpr ?_, (outcome?_eq _ _ _).trans (congrArg some failed)⟩
  rintro id (source | ⟨edge, member, rfl⟩)
  · exact .inl (sources id source)
  · refine (targets edge member).imp_right fun same => ?_
    rw [same]
    exact exists_note_attach_loose configuration

end Workflow

end WorkflowSynthesis
