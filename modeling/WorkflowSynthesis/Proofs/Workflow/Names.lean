import WorkflowSynthesis.Proofs.Pattern.Names
import WorkflowSynthesis.Proofs.Workflow.Free
import WorkflowSynthesis.Proofs.Workflow.Growth

/-!
The names of the nodes of a drawing. No name is given twice, and names that the standard pattern matches are
still matched, and still short, with what is put behind them.
-/

namespace WorkflowSynthesis

namespace Pattern

/-- A name may be continued by characters of names. -/
theorem matchesText_append {name suffix : String} (matched : standardName.matchesText name = true)
    (chars : suffix.toList.all nameChars.contains = true) : standardName.matchesText (name ++ suffix) = true := by
  obtain ⟨first, rest, spelled, capital, others⟩ := matchesText_standardName.mp matched
  refine matchesText_standardName.mpr ⟨first, rest ++ suffix.toList, ?_, capital, ?_⟩
  · rw [String.toList_append, spelled, List.cons_append]
  · rw [List.all_append, others, chars, Bool.true_and]

theorem nameChars_toString (number : Nat) : (toString number).toList.all nameChars.contains = true := by
  rw [Nat.toString_eq_repr, Nat.toList_repr, List.all_eq_true]
  intro c member
  have digit := Nat.isDigit_of_mem_toDigits (by decide) (by decide) member
  simp only [Char.isDigit, Bool.and_eq_true, decide_eq_true_eq] at digit
  have code : 48 ≤ c.toNat ∧ c.toNat ≤ 57 := digit
  simp only [CharSet.contains, nameChars, Text.covers]
  grind

end Pattern

open Pattern (standardName nameChars)

theorem Free.matchesText_numbered {base : String} (matched : standardName.matchesText base = true) (number : Nat) :
    standardName.matchesText (numbered base " " number) = true :=
  Pattern.matchesText_append (Pattern.matchesText_append matched (by decide)) (Pattern.nameChars_toString number)

theorem Free.length_numbered_le (base : String) {number digits : Nat} (positive : 0 < digits) (few : number < 10 ^ digits) :
    (numbered base " " number).length ≤ base.length + 1 + digits := by
  have length : (toString number).length ≤ digits := by
    rw [Nat.toString_eq_repr]
    exact (Nat.length_repr_le_iff positive).mpr few
  have space : (" " : String).length = 1 := rfl
  rw [numbered, String.length_append, String.length_append, space]
  omega

/-- A number below a hundred makes a name at most three characters longer. -/
theorem Free.matchesText_name {taken : List String} {base : String} (few : taken.length ≤ 97)
    (matched : standardName.matchesText base = true) :
    standardName.matchesText (name taken base) = true ∧ (name taken base).length ≤ base.length + 3 := by
  rcases name_eq taken base with same | ⟨number, _, most, same⟩
  · rw [same]
    exact ⟨matched, Nat.le_add_right _ _⟩
  · rw [same]
    exact ⟨matchesText_numbered matched number, length_numbered_le base (by decide : 0 < 2) (by omega)⟩

/-- Whether the standard rules accept the names of the nodes of a step, also with a number behind them, and of
the ends of its branches. -/
structure Step.Nameable (step : Step) : Prop where
  matched : standardName.matchesText step.name = true
  short : step.name.length ≤ 40
  branching : step.isBranching = true → step.name.length ≤ 20 ∧ step.outputs ≤ 9

namespace Step

/-- The end of a branch of a node with a short name. -/
theorem matchesText_branchEndName {source : String} {outputs output : Nat} (matched : standardName.matchesText source = true)
    (few : outputs ≤ 9) (inside : output < outputs) :
    standardName.matchesText (branchEndName source outputs output) = true ∧
      (branchEndName source outputs output).length ≤ source.length + 9 := by
  have met : (" Met" : String).length = 4 := rfl
  have notMet : (" Not Met" : String).length = 8 := rfl
  have label : (" Output " : String).length = 8 := rfl
  unfold branchEndName
  split
  · split
    · rw [String.length_append, met]
      exact ⟨Pattern.matchesText_append matched (by decide), by omega⟩
    · rw [String.length_append, notMet]
      exact ⟨Pattern.matchesText_append matched (by decide), by omega⟩
  · have digits : (toString (output + 1)).length ≤ 1 := by
      rw [Nat.toString_eq_repr]
      exact (Nat.length_repr_le_iff (by decide)).mpr (by omega)
    rw [String.length_append, String.length_append, label]
    refine ⟨Pattern.matchesText_append (Pattern.matchesText_append matched (by decide)) (Pattern.nameChars_toString _), ?_⟩
    omega

theorem nameable_branchEnd {source : String} {outputs output : Nat} (matched : standardName.matchesText source = true)
    (short : source.length ≤ 23) (few : outputs ≤ 9) (inside : output < outputs) :
    (branchEnd source outputs output).Nameable := by
  obtain ⟨endMatched, length⟩ := matchesText_branchEndName matched few inside
  have straight : (branchEnd source outputs output).isBranching = false := rfl
  exact ⟨endMatched, length.trans (by omega), fun branching => by simp [straight] at branching⟩

end Step

namespace Draft

variable {drawing : Drawing} {steps : List Step} {draft : Draft}

@[simp]
theorem names_place (origin : Option Nat) (step : Step) (stage lane : Nat) :
    (draft.place drawing origin step stage lane).names = draft.names ++ [Free.name draft.names step.name] := by
  simp [names, nextNode, Node.name]

theorem Grown.nodup_names (grown : Grown drawing steps draft) : draft.names.Nodup := by
  have new : ∀ (draft : Draft) (base : String), draft.names.Nodup → (draft.names ++ [Free.name draft.names base]).Nodup := by
    intro draft base distinct
    refine List.nodup_append.mpr ⟨distinct, List.nodup_singleton _, fun name member other single same => ?_⟩
    rw [List.mem_singleton] at single
    exact Free.name_not_mem draft.names base (by rwa [← single, ← same])
  induction grown with
  | empty => exact .nil
  | place _ _ _ _ _ ih =>
    rw [names_place]
    exact new _ _ ih
  | branchEnd _ _ _ _ _ _ ih =>
    rw [names_place]
    exact new _ _ ih
  | connect _ _ _ _ ih => exact ih
  | change _ same ih =>
    have names := map_eq_of_silent same (fun placement => placement.node.name) fun _ => rfl
    simpa only [Draft.names, Draft.nodes, List.map_map, Function.comp_def, names] using ih

/-- Whether the standard rules accept the name of a node and of the ends of its branches. -/
structure Named (node : Node) : Prop where
  matched : standardName.matchesText node.name = true
  short : node.name.length ≤ 43
  branching : node.step.isBranching = true → node.name.length ≤ 23 ∧ node.step.outputs ≤ 9

theorem named_nextNode {step : Step} (nameable : step.Nameable) (few : draft.placements.length ≤ 97) (stage lane : Nat) :
    Named (draft.nextNode drawing step stage lane) := by
  have taken : draft.names.length ≤ 97 := by simpa [names, nodes] using few
  obtain ⟨matched, length⟩ := Free.matchesText_name taken nameable.matched
  have short := nameable.short
  refine ⟨matched, length.trans (by omega), fun branching => ?_⟩
  obtain ⟨shorter, outputs⟩ := nameable.branching branching
  exact ⟨length.trans (by omega), outputs⟩

/-- The nodes of a draft that has not grown too large have names that the standard rules accept. -/
theorem Grown.named (grown : Grown drawing steps draft) (nameable : ∀ step ∈ steps, step.Nameable)
    (few : draft.placements.length ≤ 98) : ∀ node ∈ draft.nodes, Named node := by
  induction grown with
  | empty => simp [nodes]
  | place _ planned _ _ _ ih =>
    rw [length_place] at few
    rw [nodes_place, List.forall_mem_append, List.forall_mem_singleton]
    exact ⟨ih (by omega), named_nextNode (nameable _ planned) (by omega) _ _⟩
  | branchEnd _ member branching inside _ _ ih =>
    rw [length_place] at few
    have earlier := ih (by omega)
    have node := earlier _ member
    obtain ⟨short, outputs⟩ := node.branching branching
    have nameable := Step.nameable_branchEnd node.matched short outputs inside
    rw [nodes_place, List.forall_mem_append, List.forall_mem_singleton]
    exact ⟨earlier, named_nextNode nameable (by omega) _ _⟩
  | connect _ _ _ _ ih => exact ih few
  | change _ same ih =>
    have lengths := congrArg List.length same
    rw [List.length_map, List.length_map] at lengths
    intro node member
    obtain ⟨placement, listed, rfl⟩ := List.mem_map.mp member
    obtain ⟨twin, held, equal⟩ := Placement.exists_silent same listed
    have twinNamed := ih (lengths ▸ few) twin.node (List.mem_map_of_mem held)
    have silentNamed : Named twin.silent.node := ⟨twinNamed.matched, twinNamed.short, twinNamed.branching⟩
    rw [equal] at silentNamed
    exact ⟨silentNamed.matched, silentNamed.short, silentNamed.branching⟩

end Draft

end WorkflowSynthesis
