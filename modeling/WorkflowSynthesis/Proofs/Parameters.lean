import WorkflowSynthesis.Parameters
import WorkflowSynthesis.Proofs.Json.Parsed

/-! Laying parameters over others: what comes of it is proper, and nests no deeper than the deeper of the two. -/

namespace WorkflowSynthesis

namespace Json

/-- Whether a value is proper and nests at most so deep. -/
def Fits (bound : Nat) (value : Json) : Prop := value.Proper ∧ value.depth ≤ bound

instance {bound : Nat} {value : Json} : Decidable (value.Fits bound) :=
  inferInstanceAs (Decidable (_ ∧ _))

theorem Fits.mono {value : Json} {bound wider : Nat} (fits : value.Fits bound) (le : bound ≤ wider) :
    value.Fits wider := ⟨fits.1, Nat.le_trans fits.2 le⟩

theorem fits_object_iff {members : Members} {bound : Nat} :
    (object members).Fits (bound + 1) ↔ members.keys.Nodup ∧ ∀ member ∈ members, member.2.Fits bound := by
  rw [Fits, depth_object_le_iff, Proper, properMembers_iff, and_assoc]
  refine and_congr_right fun _ => ⟨fun fits member listed => ⟨fits.1 member listed, fits.2 member listed⟩, ?_⟩
  exact fun fits => ⟨fun member listed => (fits member listed).1, fun member listed => (fits member listed).2⟩

theorem fits_array_iff {items : List Json} {bound : Nat} :
    (array items).Fits (bound + 1) ↔ ∀ item ∈ items, item.Fits bound := by
  rw [Fits, depth_array_le_iff, Proper, properItems_iff]
  exact ⟨fun fits item listed => ⟨fits.1 item listed, fits.2 item listed⟩,
    fun fits => ⟨fun item listed => (fits item listed).1, fun item listed => (fits item listed).2⟩⟩

theorem fits_text (value : String) (bound : Nat) : (text value).Fits bound := ⟨trivial, Nat.zero_le _⟩

theorem fits_nat {value : Nat} (small : value < 100) (bound : Nat) : (nat value).Fits bound :=
  ⟨⟨by omega, by omega⟩, Nat.zero_le _⟩

end Json

namespace Parameters

open Json (Fits fits_object_iff)

theorem fits_put {bound : Nat} {members : Members} {key : String} {value : Json} (fits : (Json.object members).Fits (bound + 1))
    (valueFits : value.Fits bound) : (Json.object (members.put key value)).Fits (bound + 1) := by
  obtain ⟨distinct, each⟩ := fits_object_iff.mp fits
  refine fits_object_iff.mpr ⟨?_, fun member listed => ?_⟩
  · rw [Members.keys_put]
    split
    · exact distinct
    · next fresh =>
      refine List.nodup_append.mpr ⟨distinct, List.nodup_singleton _, fun held member other single same => fresh ?_⟩
      rwa [← List.mem_singleton.mp single, ← same]
  · rcases Members.mem_put listed with rfl | old
    · exact valueFits
    · exact each member old

theorem fits_value? {bound : Nat} {members : Members} {key : String} (fits : (Json.object members).Fits (bound + 1)) :
    ∀ value ∈ members.value? key, value.Fits bound := by
  intro value found
  obtain ⟨before, after, rfl, _⟩ := List.lookup_eq_some_iff.mp found
  exact (fits_object_iff.mp fits).2 (key, value) (by simp)

mutual

theorem fits_mergeValue {bound : Nat} {held : Option Json} {value : Json}
    (heldFits : ∀ value ∈ held, value.Fits bound) (fits : value.Fits bound) : (mergeValue held value).Fits bound := by
  match value with
  | .null | .bool _ | .number _ | .text _ | .array _ => exact fits
  | .object incoming =>
    unfold mergeValue
    split
    · next existing => exact fits_merge (heldFits _ rfl) fits
    · exact fits

theorem fits_merge {bound : Nat} {base : Members} {overlay : List (String × Json)}
    (baseFits : (Json.object base).Fits bound) (fits : (Json.object overlay).Fits bound) : (Json.object (merge base overlay)).Fits bound := by
  match overlay with
  | [] => exact baseFits
  | (key, value) :: rest =>
    obtain ⟨room, rfl⟩ : ∃ room, bound = room + 1 := Nat.exists_eq_add_one.mpr (Nat.lt_of_lt_of_le (Nat.succ_pos _) fits.2)
    obtain ⟨distinct, each⟩ := fits_object_iff.mp fits
    obtain ⟨first, others⟩ := List.forall_mem_cons.mp each
    have restFits : (Json.object rest).Fits (room + 1) := fits_object_iff.mpr ⟨(List.nodup_cons.mp distinct).2, others⟩
    rw [merge]
    exact fits_merge (fits_put baseFits (fits_mergeValue (fits_value? baseFits) first)) restFits

end

end Parameters

end WorkflowSynthesis
