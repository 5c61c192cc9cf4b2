import WorkflowSynthesis.Proofs.Json.Fields
import WorkflowSynthesis.Proofs.Json.Readable

/-!
Objects of which only some members are left. The numbers in them are among those of the whole, and of the fields of
a record those that are left are read.
-/

namespace WorkflowSynthesis

namespace Json

/-- What is left of an object if only the members with certain keys are kept. -/
def restrict (kept : String → Bool) : Json → Json
  | .object members => .object (members.filter fun member => kept member.1)
  | value => value

/-- What is left of an object if every member that is itself an object keeps only the members with certain keys. -/
def restrictEach (kept : String → String → Bool) : Json → Json
  | .object members => .object (members.map fun member => (member.1, member.2.restrict (kept member.1)))
  | value => value

theorem mem_memberNumbers_iff {members : Members} {number : Number} :
    number ∈ memberNumbers members ↔ ∃ member ∈ members, number ∈ member.2.numbers := by
  induction members with
  | nil => simp [memberNumbers]
  | cons member rest ih => simp [memberNumbers, ih]

theorem numbers_restrict_subset (value : Json) (kept : String → Bool) :
    (value.restrict kept).numbers ⊆ value.numbers := by
  intro number held
  cases value with
  | object members =>
    rw [restrict, numbers, mem_memberNumbers_iff] at held
    obtain ⟨member, left, held⟩ := held
    exact mem_memberNumbers_iff.mpr ⟨member, List.mem_of_mem_filter left, held⟩
  | _ => exact held

theorem numbers_restrictEach_subset (value : Json) (kept : String → String → Bool) :
    (value.restrictEach kept).numbers ⊆ value.numbers := by
  intro number held
  cases value with
  | object members =>
    rw [restrictEach, numbers, mem_memberNumbers_iff] at held
    obtain ⟨left, listed, held⟩ := held
    obtain ⟨member, whole, rfl⟩ := List.mem_map.mp listed
    exact mem_memberNumbers_iff.mpr ⟨member, whole, numbers_restrict_subset member.2 (kept member.1) held⟩
  | _ => exact held

end Json

/-- All fields that are left of a written record are found if its names are known and distinct. -/
theorem Document.fields?_restrict {names : List String} {members : Members}
    (known : ∀ name ∈ members.keys, name ∈ names) (distinct : members.keys.Nodup) (kept : String → Bool) :
    (ofJson ((Json.object members).restrict kept)).fields? names =
      some ((members.map fun member => (member.1, ofJson member.2)).filter fun field => kept field.1) := by
  have left : Members.keys (members.filter fun member => kept member.1) |>.Sublist members.keys :=
    List.filter_sublist.map Prod.fst
  rw [Json.restrict, fields?_object (fun name member => known name (left.subset member)) (left.nodup distinct),
    List.filter_map]
  rfl

end WorkflowSynthesis
