import WorkflowSynthesis.Notes.Documentation
import WorkflowSynthesis.Proofs.Review.Recovery

/-!
The outcome that the sentence about a workflow tells if the caller tells none: that its actions are completed, but for
the ends of branches. Neither the role of handlers nor the key of the ends of branches is written, so both are told as
well of what is read.
-/

namespace WorkflowSynthesis

namespace Text

variable (separator : String) {texts few many : List String}

/-- Every text counts with its separator, but for the last one. -/
theorem length_intercalate (nonempty : texts ≠ []) : (separator.intercalate texts).length + separator.length =
    (texts.map fun text => text.length + separator.length).sum := by
  induction texts with
  | nil => exact absurd rfl nonempty
  | cons text rest ih =>
    by_cases last : rest = []
    · simp [last]
    · have later := ih last
      rw [String.intercalate_cons_of_ne_nil last, String.length_append, String.length_append, List.map_cons, List.sum_cons]
      omega

theorem length_le_intercalate {text : String} (member : text ∈ texts) :
    text.length ≤ (separator.intercalate texts).length := by
  have joined := length_intercalate separator (List.ne_nil_of_mem member)
  have part : text.length + separator.length ≤ (texts.map fun text => text.length + separator.length).sum :=
    List.le_sum_of_mem (List.mem_map_of_mem member)
  omega

theorem sum_length_lt (wide : 0 < separator.length) (sublist : few.Sublist many) (more : few.length < many.length) :
    (few.map fun text => text.length + separator.length).sum <
      (many.map fun text => text.length + separator.length).sum := by
  induction sublist with
  | slnil => exact absurd more (Nat.lt_irrefl _)
  | cons text sublist ih =>
    have rest := (sublist.map fun text => text.length + separator.length).sum_le_sum fun _ _ => Nat.zero_le _
    rw [List.map_cons, List.sum_cons]
    omega
  | cons_cons text _ ih =>
    have rest := ih (Nat.lt_of_succ_lt_succ more)
    rw [List.map_cons, List.map_cons, List.sum_cons, List.sum_cons]
    omega

/-- More texts are longer when they are joined. -/
theorem length_intercalate_lt (wide : 0 < separator.length) (sublist : few.Sublist many)
    (more : few.length < many.length) (nonempty : few ≠ []) :
    (separator.intercalate few).length < (separator.intercalate many).length := by
  have others : many ≠ [] := List.ne_nil_of_length_pos (Nat.zero_lt_of_lt more)
  have first := length_intercalate separator nonempty
  have second := length_intercalate separator others
  have grown := sum_length_lt separator wide sublist more
  omega

end Text

namespace Documentation

/-- The nodes that are listed as completed: actions but for the ends of branches. -/
def completed (workflow : Workflow) : List Node := (workflow.withRole .action).filter (·.step.key ≠ "branch_end")

/-- The nodes that are listed once they were written and read. -/
def actionLike (workflow : Workflow) : List Node :=
  workflow.nodes.filter fun node => node.role = .action ∨ node.role = .errorHandler

/-- Whether a node is listed only then: it handles failures, or ends a branch. -/
def IsMistaken (node : Node) : Prop :=
  node.role = .errorHandler ∨ node.role = .action ∧ node.step.key = "branch_end"

/-- The outcome that is told of nodes by their names. -/
def completion (names : List String) : String := ", ".intercalate names ++ " being completed"

variable {configuration : Configuration} {workflow : Workflow} {asked : DocumentationContext}

theorem completed_sublist (workflow : Workflow) : (completed workflow).Sublist (actionLike workflow) := by
  rw [completed, Workflow.withRole, List.filter_filter]
  refine List.monotone_filter_right _ fun node => ?_
  simp +contextual

theorem completed_eq_iff : completed workflow = actionLike workflow ↔ ¬∃ node ∈ workflow.nodes, IsMistaken node := by
  rw [completed, actionLike, Workflow.withRole, List.filter_filter]
  constructor
  · rintro same ⟨node, member, mistaken⟩
    have listed : node ∈ workflow.nodes.filter fun node => node.role = .action ∨ node.role = .errorHandler :=
      List.mem_filter.mpr ⟨member, decide_eq_true (mistaken.symm.imp_left And.left)⟩
    rw [← same, List.mem_filter, Bool.and_eq_true, decide_eq_true_eq, decide_eq_true_eq] at listed
    rcases mistaken with handles | ⟨_, ends⟩
    · exact absurd (listed.2.2.symm.trans handles) (by decide)
    · exact listed.2.1 ends
  · intro faithful
    refine List.filter_congr fun node member => ?_
    have right : ¬IsMistaken node := fun mistaken => faithful ⟨node, member, mistaken⟩
    simp only [IsMistaken, not_or, not_and] at right
    by_cases acts : node.role = .action
    · simp [acts, right.2 acts]
    · simp [acts, right.1]

theorem defaultOutcome_eq (told : ∃ node ∈ completed workflow, node.name ≠ "") :
    defaultOutcome workflow = completion ((completed workflow).map Node.name) := by
  obtain ⟨node, member, visible⟩ := told
  have listed : node.name ∈ (completed workflow).map Node.name := List.mem_map_of_mem member
  have visibly : ", ".intercalate ((completed workflow).map Node.name) ≠ "" := by
    intro blank
    have short := Text.length_le_intercalate ", " listed
    rw [blank, String.length_empty, Nat.le_zero, String.length_eq_zero_iff] at short
    exact visible short
  exact if_neg visibly

/-- A caller who says nothing of the outcome is told which nodes are completed. -/
theorem description_eq (quiet : Text.isBlankText asked.outcome = true)
    (told : ∃ node ∈ completed workflow, node.name ≠ "") :
    (ofWorkflow configuration workflow asked).description =
      NoteTemplates.describe (purpose workflow asked) (trigger configuration workflow asked).phrase
        (completion ((completed workflow).map Node.name)) := by
  rw [ofWorkflow, outcome, if_pos quiet, defaultOutcome_eq told]

theorem describe_inj {purpose trigger outcome other : String} :
    NoteTemplates.describe purpose trigger outcome = NoteTemplates.describe purpose trigger other ↔ outcome = other := by
  unfold NoteTemplates.describe
  exact (String.append_left_inj ".").trans (String.append_right_inj _)

section Recovered

variable (recoverable : ∀ node ∈ workflow.nodes, node.step.Recoverable configuration.catalog)
include recoverable

/-- Neither the role of handlers nor the key of the ends of branches is read again. -/
theorem completed_recovered : completed workflow.recovered = (actionLike workflow).map Node.recovered := by
  have keys : ∀ node ∈ workflow.recovered.withRole .action, node.step.key ≠ "branch_end" := by
    intro node member
    have listed := (List.mem_filter.mp member).1
    rw [Review.nodes_recovered] at listed
    obtain ⟨written, _, rfl⟩ := List.mem_map.mp listed
    have key : written.recovered.step.key = "" := rfl
    rw [key]
    decide
  rw [completed, List.filter_eq_self.mpr fun node member => decide_eq_true (keys node member), Workflow.withRole,
    Review.nodes_recovered, List.filter_map]
  refine congrArg (List.map Node.recovered) (List.filter_congr fun node member => ?_)
  rw [Function.comp_apply, Review.role_recovered recoverable member]
  cases node.role <;> rfl

theorem trigger_recovered :
    trigger configuration workflow.recovered asked = trigger configuration workflow asked := by
  have inferred : inferTrigger? configuration workflow.recovered = inferTrigger? configuration workflow := by
    unfold inferTrigger?
    rw [Review.trigger?_recovered recoverable]
    cases workflow.trigger? <;> rfl
  rw [trigger, trigger, inferred]

/-- The sentence about a workflow that was read tells of all nodes that are taken for actions. -/
theorem description_recovered (quiet : Text.isBlankText asked.outcome = true)
    (told : ∃ node ∈ completed workflow, node.name ≠ "") :
    (ofWorkflow configuration workflow.recovered asked).description =
      NoteTemplates.describe (purpose workflow asked) (trigger configuration workflow asked).phrase
        (completion ((actionLike workflow).map Node.name)) := by
  have listed := completed_recovered recoverable
  have names : (completed workflow.recovered).map Node.name = (actionLike workflow).map Node.name := by
    rw [listed, List.map_map]
    rfl
  obtain ⟨node, member, visible⟩ := told
  have still : node.recovered ∈ completed workflow.recovered := by
    rw [listed]
    exact List.mem_map_of_mem ((completed_sublist workflow).subset member)
  rw [description_eq quiet ⟨node.recovered, still, visible⟩, names, trigger_recovered recoverable]
  rfl

/-- It is the same sentence only if no node is mistaken for an action. -/
theorem description_recovered_eq_iff (quiet : Text.isBlankText asked.outcome = true)
    (told : ∃ node ∈ completed workflow, node.name ≠ "") :
    (ofWorkflow configuration workflow.recovered asked).description =
        (ofWorkflow configuration workflow asked).description ↔ ¬∃ node ∈ workflow.nodes, IsMistaken node := by
  rw [description_recovered recoverable quiet told, description_eq quiet told, describe_inj, completion, completion,
    String.append_left_inj, ← completed_eq_iff]
  constructor
  · intro same
    by_contra different
    have sublist := completed_sublist workflow
    have fewer : (completed workflow).length < (actionLike workflow).length :=
      Nat.lt_of_le_of_ne sublist.length_le fun length => different (sublist.eq_of_length length)
    obtain ⟨node, member, _⟩ := told
    have nonempty : (completed workflow).map Node.name ≠ [] := List.ne_nil_of_mem (List.mem_map_of_mem member)
    have longer := Text.length_intercalate_lt ", " (by decide) (sublist.map Node.name)
      (by simpa only [List.length_map] using fewer) nonempty
    rw [same] at longer
    exact Nat.lt_irrefl _ longer
  · intro same
    rw [same]

end Recovered

end Documentation

end WorkflowSynthesis
