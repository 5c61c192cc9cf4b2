import WorkflowSynthesis.Proofs.Notes.Attachment
import WorkflowSynthesis.Proofs.Workflow.Growth

/-!
How workflows begin. The first node of a drawing is that of the first trigger of the plan, whatever else is placed, and
notes are stuck behind it.
-/

namespace WorkflowSynthesis

namespace Draft

variable {drawing : Drawing} {steps : List Step} {draft : Draft}

/-- The first node is that of a step of the plan, since the end of a branch hangs on a node that is there before it. -/
theorem Grown.first (grown : Grown drawing steps draft) :
    ∀ placement ∈ draft.placements.head?, placement.source.isSome := by
  induction grown with
  | empty =>
    intro placement first
    cases first
  | @place draft _ _ _ _ _ _ ih =>
    intro placement first
    rw [Draft.place, List.head?_append, Option.mem_def, Option.or_eq_some_iff] at first
    rcases first with old | ⟨_, new⟩
    · exact ih placement old
    · obtain rfl := Option.some.inj new
      rfl
  | @branchEnd draft _ node member _ _ _ _ _ ih =>
    intro placement first
    rw [Draft.place, List.head?_append] at first
    obtain ⟨held, listed, _⟩ := List.mem_map.mp member
    obtain ⟨other, others, split⟩ := List.exists_cons_of_ne_nil (List.ne_nil_of_mem listed)
    rw [split] at ih first
    exact ih placement first
  | connect _ _ _ _ ih => exact ih
  | @change draft _ placements same ih =>
    intro placement first
    have heads := congrArg List.head? same
    rw [List.head?_map, List.head?_map, Option.mem_def.mp first, Option.map_some] at heads
    obtain ⟨twin, held, alike⟩ := Option.map_eq_some_iff.mp heads.symm
    have source := Placement.eq_of_silent alike (·.source) fun _ => rfl
    exact source ▸ ih twin held

/-- A drawing begins with the first step that was placed. -/
theorem Grown.exists_first (grown : Grown drawing steps draft) {part : Nat × Step} {rest : List (Nat × Step)}
    (planned : draft.planned = part :: rest) :
    ∃ node others, draft.nodes = node :: others ∧ node.step.core = part.2 := by
  have first := grown.first
  obtain ⟨placements, connections⟩ := draft
  cases placements with
  | nil => cases planned
  | cons placement others =>
    obtain ⟨index, source⟩ := Option.isSome_iff_exists.mp (first placement rfl)
    have own : placement.planned? = some (index, placement.node.step.core) := by
      rw [Placement.planned?, source, Option.map_some]
    rw [Draft.planned, List.filterMap_cons_some own] at planned
    obtain ⟨rfl, _⟩ := List.cons.inj planned
    exact ⟨placement.node, _, rfl, rfl⟩

/-- The drawing of a plan that begins with a trigger begins with its node. -/
theorem exists_first_ofSteps (drawing : Drawing) {trigger : Step} (isTrigger : trigger.role = .trigger)
    (others : List Step) : ∃ node rest, (ofSteps drawing (trigger :: others)).nodes = node :: rest ∧
      node.step.core = trigger.core := by
  have placed := planned_ofSteps drawing (trigger :: others)
  obtain ⟨later, ordered⟩ : ∃ later, (PlanParts.ofSteps (trigger :: others)).order = (0, trigger) :: later := by
    simp [PlanParts.order, PlanParts.chain, PlanParts.ofSteps, isTrigger]
  rw [ordered, List.map_cons] at placed
  exact (grown_ofSteps drawing (trigger :: others)).exists_first placed

end Draft

namespace Workflow

/-- Whether the first node of a workflow is its trigger and has the given type. -/
def StartsWith (workflow : Workflow) (nodeType : String) : Prop :=
  ∃ node rest, workflow.nodes = node :: rest ∧ workflow.trigger? = some node ∧ node.nodeType = nodeType

theorem startsWith_of_nodes {workflow : Workflow} {node : Node} {rest : List Node}
    (nodes : workflow.nodes = node :: rest) (isTrigger : node.role = .trigger) :
    workflow.StartsWith node.nodeType := by
  refine ⟨node, rest, nodes, ?_, rfl⟩
  rw [trigger?, nodes]
  exact List.find?_cons_of_pos (decide_eq_true isTrigger)

theorem startsWith_build (configuration : Configuration) (identifiers : Identifiers) (name : String) {trigger : Step}
    (isTrigger : trigger.role = .trigger) (others : List Step) :
    (build configuration identifiers name (trigger :: others)).1.StartsWith trigger.nodeType := by
  obtain ⟨node, rest, nodes, same⟩ :=
    Draft.exists_first_ofSteps (drawing configuration identifiers) isTrigger others
  have role : node.step.core.role = trigger.core.role := congrArg Step.role same
  have typed : node.step.core.nodeType = trigger.core.nodeType := congrArg Step.nodeType same
  exact typed ▸ startsWith_of_nodes nodes (role.trans isTrigger)

/-- Notes do not come before the trigger. -/
theorem StartsWith.attach {workflow : Workflow} {nodeType : String} (starts : workflow.StartsWith nodeType)
    (configuration : Configuration) (identifiers : Identifiers) (documentation : Documentation) :
    (workflow.attach configuration identifiers documentation).1.StartsWith nodeType := by
  obtain ⟨node, rest, nodes, found, rfl⟩ := starts
  have isTrigger : node.role = .trigger := by
    rw [trigger?] at found
    simpa using List.find?_some found
  have runs : node.isExecutable = true := by
    rw [Node.isExecutable, isTrigger]
    rfl
  obtain ⟨notes, attached, _⟩ := exists_attach_eq configuration identifiers workflow documentation
  have kept : workflow.executableNodes = node :: rest.filter Node.isExecutable := by
    rw [executableNodes, nodes, List.filter_cons_of_pos runs]
  have begins : ((Attachment.withoutAnnotations workflow).withNotes notes).nodes =
      node :: (rest.filter Node.isExecutable ++ notes) := by
    rw [withNotes, Attachment.withoutAnnotations, kept, List.cons_append]
  rw [attached]
  exact startsWith_of_nodes begins isTrigger

end Workflow

end WorkflowSynthesis
