import Mathlib.Data.List.Nodup
import Mathlib.Data.List.Perm.Subperm
import Std.Data.String.ToNat
import WorkflowSynthesis.Workflow.Free

/-!
What is found when something free is looked for. Among one more candidates than there are taken texts one is
free, so a numbered name is always found, and it has the least number that makes it free.
-/

namespace WorkflowSynthesis.Free

/-- The search stops at the first free number, and at the latest behind the last attempt. -/
theorem least_spec (free : Nat → Bool) (attempts start : Nat) :
    start ≤ least free attempts start ∧ least free attempts start ≤ start + attempts ∧
      (∀ number, start ≤ number → number < least free attempts start → free number = false) ∧
        (least free attempts start < start + attempts → free (least free attempts start) = true) := by
  induction attempts generalizing start with
  | zero =>
    rw [least]
    exact ⟨Nat.le_refl _, Nat.le_refl _, fun number low high => by omega, fun less => by omega⟩
  | succ attempts ih =>
    rw [least]
    split
    · next found => exact ⟨Nat.le_refl _, Nat.le_add_right _ _, fun number low high => by omega, fun _ => found⟩
    · next taken =>
      obtain ⟨low, high, before, found⟩ := ih (start + 1)
      refine ⟨by omega, by omega, fun number above below => ?_, fun less => found (by omega)⟩
      rcases Nat.eq_or_lt_of_le above with rfl | later
      · simpa using taken
      · exact before number later below

/-- Of candidates that differ, one more than there are taken ones, one is not taken. -/
theorem exists_not_mem {α : Type} (taken : List α) {candidate : Nat → α}
    (distinct : Function.Injective candidate) (start : Nat) :
    ∃ number, start ≤ number ∧ number ≤ start + taken.length ∧ candidate number ∉ taken := by
  by_contra none
  push Not at none
  have included : (List.range' start (taken.length + 1)).map candidate ⊆ taken := by
    intro value member
    obtain ⟨number, listed, rfl⟩ := List.mem_map.mp member
    rw [List.mem_range'_1] at listed
    exact none number listed.1 (by omega)
  have nodup : ((List.range' start (taken.length + 1)).map candidate).Nodup :=
    List.Nodup.map distinct List.nodup_range'
  have length := (nodup.subperm included).length_le
  rw [List.length_map, List.length_range'] at length
  omega

theorem numbered_injective (text separator : String) : Function.Injective (numbered text separator) := by
  intro first second same
  have digits : toString first = toString second := by
    simpa [numbered, ← String.toList_inj] using same
  rw [Nat.toString_eq_repr, Nat.toString_eq_repr] at digits
  exact Nat.repr_injective digits

/-- The numbered text is free, and its number is the least one from two on with which it is. -/
theorem firstNumbered_spec (taken : List String) (text separator : String) :
    ∃ number, firstNumbered taken text separator = numbered text separator number ∧ 2 ≤ number ∧
      number ≤ taken.length + 2 ∧ numbered text separator number ∉ taken ∧
        ∀ smaller, 2 ≤ smaller → smaller < number → numbered text separator smaller ∈ taken := by
  obtain ⟨low, high, before, found⟩ :=
    least_spec (fun number => !taken.contains (numbered text separator number)) taken.length 2
  refine ⟨_, rfl, low, by omega, ?_, fun smaller above below => ?_⟩
  · rcases Nat.eq_or_lt_of_le high with last | inside
    · obtain ⟨number, above, below, free⟩ := exists_not_mem taken (numbered_injective text separator) 2
      rcases Nat.eq_or_lt_of_le below with rfl | less
      · rw [last]
        exact free
      · have taken' := before number above (by omega)
        simp [free] at taken'
    · simpa using found inside
  · simpa using before smaller above below

theorem name_not_mem (taken : List String) (base : String) : name taken base ∉ taken := by
  unfold name
  split
  · obtain ⟨number, same, _, _, free, _⟩ := firstNumbered_spec taken base " "
    rw [same]
    exact free
  · next free => simpa using free

/-- A name is its base, or that with a space and a number from two on. -/
theorem name_eq (taken : List String) (base : String) :
    name taken base = base ∨
      ∃ number, 2 ≤ number ∧ number ≤ taken.length + 2 ∧ name taken base = numbered base " " number := by
  unfold name
  split
  · obtain ⟨number, same, least, most, _⟩ := firstNumbered_spec taken base " "
    exact .inr ⟨number, least, most, same⟩
  · exact .inl rfl

theorem identifier_not_mem (taken : List String) (identifiers : Nat → String) :
    (identifier taken identifiers).1 ∉ taken := by
  unfold identifier
  split
  · next index found => simpa using List.find?_some found
  · obtain ⟨number, same, _, _, free, _⟩ := firstNumbered_spec taken (identifiers (maximumDraws - 1)) "-"
    rw [same]
    exact free

/-- An identifier is one of its source, or that with a hyphen and a number. -/
theorem identifier_eq (taken : List String) (identifiers : Nat → String) :
    ∃ index, (identifier taken identifiers).1 = identifiers index ∨
      ∃ number, (identifier taken identifiers).1 = numbered (identifiers index) "-" number := by
  unfold identifier
  split
  · next index found => exact ⟨index, .inl rfl⟩
  · obtain ⟨number, same, _⟩ := firstNumbered_spec taken (identifiers (maximumDraws - 1)) "-"
    exact ⟨maximumDraws - 1, .inr ⟨number, same⟩⟩

end WorkflowSynthesis.Free
