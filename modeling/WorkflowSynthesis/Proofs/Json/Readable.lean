import WorkflowSynthesis.Proofs.Json.Overflow
import WorkflowSynthesis.Proofs.Json.Values

/-!
A written value is read again as some value if each of its numbers is, as in every proper value. Real numbers may be
read as others than they were, but no key is lost.
-/

namespace WorkflowSynthesis

theorem Number.exists_reread {number : Number} (range : number.InRange) : ∃ read, number.reread = some read := by
  cases number with
  | integer value => exact ⟨_, reread_integer range⟩
  | real value => exact Option.isSome_iff_exists.mp (isSome_reread value)

namespace Json

mutual

/-- What a value states stands for a value if all its numbers are read again. -/
theorem isSome_value?_stated (value : Json) :
    value.stated.value?.isSome ↔ ∀ number ∈ value.numbers, number.reread.isSome := by
  match value with
  | .null | .bool _ | .text _ => simp [stated, Document.value?, numbers]
  | .number held => simp [stated, Document.value?, numbers]
  | .array items => rw [stated, Document.value?, Option.isSome_map, isSome_itemValues?_statedItems, numbers]
  | .object members => rw [stated, Document.value?, Option.isSome_map, isSome_memberValues?_statedMembers, numbers]

theorem isSome_itemValues?_statedItems (items : List Json) :
    (Document.itemValues? (statedItems items)).isSome ↔ ∀ number ∈ itemNumbers items, number.reread.isSome := by
  match items with
  | [] => simp [statedItems, Document.itemValues?, itemNumbers]
  | item :: items =>
    rw [itemNumbers, List.forall_mem_append, ← isSome_value?_stated item, ← isSome_itemValues?_statedItems items,
      statedItems, Document.itemValues?]
    cases item.stated.value? <;> cases Document.itemValues? (statedItems items) <;> simp

theorem isSome_memberValues?_statedMembers (members : Members) :
    (Document.memberValues? (statedMembers members)).isSome ↔
      ∀ number ∈ memberNumbers members, number.reread.isSome := by
  match members with
  | [] => simp [statedMembers, Document.memberValues?, memberNumbers]
  | (key, value) :: members =>
    rw [memberNumbers, List.forall_mem_append, ← isSome_value?_stated value,
      ← isSome_memberValues?_statedMembers members, statedMembers, Document.memberValues?]
    cases value.stated.value? <;> cases Document.memberValues? (statedMembers members) <;> simp

end

theorem keys_of_memberValues? {members read : Members}
    (found : Document.memberValues? (statedMembers members) = some read) : Members.keys read = Members.keys members := by
  induction members generalizing read with
  | nil =>
    cases found
    rfl
  | cons member rest ih =>
    simp only [statedMembers, Document.memberValues?, Option.bind_eq_bind, Option.bind_eq_some_iff, pure,
      Option.some.injEq, exists_eq_left'] at found
    obtain ⟨first, _, others, othersFound, rfl⟩ := found
    rw [Members.keys, Members.keys, List.map_cons, List.map_cons]
    exact congrArg (member.1 :: ·) (ih othersFound)

theorem isSome_reread_of_proper {value : Json} (proper : value.Proper) :
    ∀ number ∈ value.numbers, number.reread.isSome := by
  intro number member
  obtain ⟨read, found⟩ := number.exists_reread (inRange_of_proper proper number member)
  rw [found, Option.isSome_some]

theorem forall_itemNumbers_iff {items : List Json} {holds : Number → Prop} :
    (∀ number ∈ itemNumbers items, holds number) ↔ ∀ item ∈ items, ∀ number ∈ item.numbers, holds number := by
  induction items with
  | nil => simp [itemNumbers]
  | cons item rest ih => rw [itemNumbers, List.forall_mem_append, ih, List.forall_mem_cons]

theorem forall_numbers_list_iff {α : Type} {write : α → Json} {values : List α} {holds : Number → Prop} :
    (∀ number ∈ (list write values).numbers, holds number) ↔
      ∀ value ∈ values, ∀ number ∈ (write value).numbers, holds number := by
  rw [list, numbers, forall_itemNumbers_iff, List.forall_mem_map]

end Json

end WorkflowSynthesis
