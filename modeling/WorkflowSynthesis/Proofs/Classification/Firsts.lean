import Mathlib.Data.List.Basic

/-!
The first item of every key, in the order of the items. What is left after an item is what has another key, so that a
fact about it follows by induction over what is left.
-/

namespace WorkflowSynthesis

variable {α β κ : Type} [BEq κ]

/-- The items whose key no earlier one has. -/
def firstsBy (key : α → κ) (items : List α) : List α := items.eraseDupsBy fun item other => key item == key other

namespace firstsBy

@[simp]
theorem nil (key : α → κ) : firstsBy key [] = [] := rfl

theorem cons (key : α → κ) (item : α) (rest : List α) :
    firstsBy key (item :: rest) = item :: firstsBy key (rest.filter fun other => !(key other == key item)) := by
  simp [firstsBy, List.eraseDupsBy_cons]

/-- An item, and those left by it: with each goes what has its key. -/
theorem induction (key : α → κ) {motive : List α → Prop} (nil : motive [])
    (cons : ∀ item rest, motive (rest.filter fun other => !(key other == key item)) → motive (item :: rest))
    (items : List α) : motive items := by
  induction size : items.length using Nat.strongRecOn generalizing items with
  | ind size ih =>
    cases items with
    | nil => exact nil
    | cons item rest =>
      have shorter := List.length_filter_le (fun other => !(key other == key item)) rest
      simp only [List.length_cons] at size
      exact cons item rest (ih _ (by omega) _ rfl)

variable {key : α → κ} {items : List α}

theorem sublist : (firstsBy key items).Sublist items := by
  induction items using induction key with
  | nil => exact .refl _
  | cons item rest ih =>
    rw [cons]
    exact (ih.trans List.filter_sublist).cons_cons item

theorem map (key : β → κ) (f : α → β) (items : List α) :
    firstsBy key (items.map f) = (firstsBy (key ∘ f) items).map f := by
  induction items using induction (key ∘ f) with
  | nil => rfl
  | cons item rest ih =>
    rw [List.map_cons, cons, cons, List.map_cons, ← ih, List.filter_map]
    rfl

variable [LawfulBEq κ]

/-- No two have one key. -/
theorem pairwise_ne : (firstsBy key items).Pairwise fun item other => key item ≠ key other := by
  induction items using induction key with
  | nil => exact .nil
  | cons item rest ih =>
    rw [cons]
    refine .cons (fun other later same => ?_) ih
    have different := (List.mem_filter.mp (sublist.subset later)).2
    simp [same] at different

/-- Every key is kept. -/
theorem exists_mem (key : α → κ) {item : α} (member : item ∈ items) : ∃ first ∈ firstsBy key items, key first = key item := by
  induction items using induction key with
  | nil => cases member
  | cons head rest ih =>
    rw [cons]
    by_cases same : key item = key head
    · exact ⟨head, List.mem_cons_self, same.symm⟩
    · have later : item ∈ rest := (List.mem_cons.mp member).resolve_left (same <| congrArg key ·)
      obtain ⟨first, kept, agree⟩ := ih (List.mem_filter.mpr ⟨later, by simpa using same⟩)
      exact ⟨first, List.mem_cons_of_mem _ kept, agree⟩

/-- What has the key of a kept item is that item, or comes after it. -/
theorem eq_or_after {after : α → α → Prop} (ordered : items.Pairwise after) {first item : α}
    (kept : first ∈ firstsBy key items) (member : item ∈ items) (same : key item = key first) :
    item = first ∨ after first item := by
  induction items using induction key with
  | nil => cases member
  | cons head rest ih =>
    rw [cons, List.mem_cons] at kept
    obtain ⟨ahead, ordered⟩ := List.pairwise_cons.mp ordered
    rcases kept with rfl | kept
    · exact (List.mem_cons.mp member).imp id (ahead item)
    · have different := (List.mem_filter.mp (sublist.subset kept)).2
      rw [← same] at different
      rcases List.mem_cons.mp member with rfl | later
      · simp at different
      · exact ih (ordered.filter _) kept (List.mem_filter.mpr ⟨later, different⟩)

end firstsBy

end WorkflowSynthesis
