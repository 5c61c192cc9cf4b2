import Mathlib.Data.List.Nodup
import WorkflowSynthesis.Dictionary

/-! Looking up, inserting and listing in dictionaries. -/

namespace WorkflowSynthesis.Dictionary

variable {α : Type}

theorem mem_insertEntry {key : String} {value : α} {entries : List (String × α)} {entry : String × α}
    (ascending : entries.Pairwise fun earlier later => earlier.1 < later.1) :
    entry ∈ insertEntry key value entries ↔ entry = (key, value) ∨ (entry ∈ entries ∧ entry.1 ≠ key) := by
  induction entries with
  | nil => simp [insertEntry]
  | cons head rest ih =>
    obtain ⟨other, held⟩ := head
    obtain ⟨below, ordered⟩ := List.pairwise_cons.mp ascending
    have distinct : ∀ entry ∈ rest, entry.1 ≠ other := fun entry member same =>
      String.lt_irrefl other (same ▸ below entry member)
    unfold insertEntry
    split
    · next same =>
      subst same
      grind
    · next different =>
      split
      · next less =>
        have above : ∀ entry ∈ rest, entry.1 ≠ key := fun entry member same =>
          String.lt_irrefl key (String.lt_trans less (same ▸ below entry member))
        grind
      · simp only [List.mem_cons, ih ordered]
        grind

@[simp]
theorem mem_entries_insert {dictionary : Dictionary α} {key : String} {value : α} {entry : String × α} :
    entry ∈ (dictionary.insert key value).entries ↔
      entry = (key, value) ∨ (entry ∈ dictionary.entries ∧ entry.1 ≠ key) :=
  mem_insertEntry dictionary.ascending

theorem mem_keys {dictionary : Dictionary α} {key : String} :
    key ∈ dictionary.keys ↔ ∃ value, (key, value) ∈ dictionary.entries := by
  simp [keys]

@[simp]
theorem mem_keys_insert {dictionary : Dictionary α} {key other : String} {value : α} :
    other ∈ (dictionary.insert key value).keys ↔ other = key ∨ other ∈ dictionary.keys := by
  simp only [mem_keys, mem_entries_insert, Prod.mk.injEq]
  by_cases same : other = key <;> simp [same]

theorem nodup_keys (dictionary : Dictionary α) : dictionary.keys.Nodup := by
  refine List.pairwise_map.mpr (dictionary.ascending.imp ?_)
  intro earlier later less same
  exact String.lt_irrefl later.1 (same ▸ less)

theorem value_unique (dictionary : Dictionary α) {key : String} {first second : α}
    (left : (key, first) ∈ dictionary.entries) (right : (key, second) ∈ dictionary.entries) : first = second := by
  have same := List.inj_on_of_nodup_map dictionary.nodup_keys left right rfl
  exact congrArg Prod.snd same

theorem get?_eq_some_iff {dictionary : Dictionary α} {key : String} {value : α} :
    dictionary.get? key = some value ↔ (key, value) ∈ dictionary.entries := by
  constructor
  · intro found
    obtain ⟨before, after, split, _⟩ := List.lookup_eq_some_iff.mp found
    simp [split]
  · intro member
    cases found : dictionary.get? key with
    | none =>
      have absent := List.lookup_eq_none_iff.mp found (key, value) member
      simp at absent
    | some held =>
      obtain ⟨before, after, split, _⟩ := List.lookup_eq_some_iff.mp found
      have listed : (key, held) ∈ dictionary.entries := by simp [split]
      rw [dictionary.value_unique member listed]

theorem nodup_entries (dictionary : Dictionary α) : dictionary.entries.Nodup :=
  List.Nodup.of_map _ dictionary.nodup_keys

/-- The entry of a key, if there is one, and the others. -/
theorem entries_perm (dictionary : Dictionary α) (key : String) :
    dictionary.entries.Perm
      ((dictionary.get? key).toList.map (key, ·) ++ dictionary.entries.filter (·.1 ≠ key)) := by
  have single : ((dictionary.get? key).toList.map (key, ·)).Nodup := by
    cases dictionary.get? key <;> simp
  refine (List.perm_ext_iff_of_nodup dictionary.nodup_entries ?_).mpr fun entry => ?_
  · refine List.nodup_append.mpr ⟨single, dictionary.nodup_entries.filter _, fun first own other held same => ?_⟩
    obtain ⟨_, _, rfl⟩ := List.mem_map.mp own
    simp [← same] at held
  · obtain ⟨other, value⟩ := entry
    simp only [List.mem_append, List.mem_map, Option.mem_toList, get?_eq_some_iff, List.mem_filter, Prod.mk.injEq,
      decide_eq_true_eq]
    grind

theorem entries_insert_perm (dictionary : Dictionary α) (key : String) (value : α) :
    (dictionary.insert key value).entries.Perm ((key, value) :: dictionary.entries.filter (·.1 ≠ key)) := by
  have distinct : ((key, value) :: dictionary.entries.filter (·.1 ≠ key)).Nodup :=
    List.nodup_cons.mpr ⟨by simp, dictionary.nodup_entries.filter _⟩
  refine (List.perm_ext_iff_of_nodup (nodup_entries _) distinct).mpr fun entry => ?_
  simp

theorem get?_insert (dictionary : Dictionary α) (key other : String) (value : α) :
    (dictionary.insert key value).get? other = if other = key then some value else dictionary.get? other := by
  apply Option.ext
  intro held
  split
  · next same =>
    simp only [get?_eq_some_iff, mem_entries_insert, same]
    grind
  · next different =>
    simp only [get?_eq_some_iff, mem_entries_insert]
    grind

theorem insertEntry_last {key : String} {value : α} {entries : List (String × α)}
    (above : ∀ entry ∈ entries, entry.1 < key) : insertEntry key value entries = entries ++ [(key, value)] := by
  induction entries with
  | nil => rfl
  | cons head rest ih =>
    obtain ⟨other, held⟩ := head
    obtain ⟨less, later⟩ := List.forall_mem_cons.mp above
    have different : key ≠ other := fun same => String.lt_irrefl other (same ▸ less)
    rw [insertEntry, if_neg different, if_neg (String.lt_asymm less), ih later, List.cons_append]

/-- The entries of a dictionary make that dictionary. -/
theorem ofList_entries (dictionary : Dictionary α) : ofList dictionary.entries = dictionary := by
  have extend : ∀ (entries : List (String × α)) (start : Dictionary α),
      (start.entries ++ entries).Pairwise (fun earlier later => earlier.1 < later.1) →
        (entries.foldl (fun result entry => result.insert entry.1 entry.2) start).entries =
          start.entries ++ entries := by
    intro entries
    induction entries with
    | nil => simp
    | cons entry rest ih =>
      intro start ascending
      have above : ∀ earlier ∈ start.entries, earlier.1 < entry.1 := fun earlier member =>
        (List.pairwise_append.mp ascending).2.2 earlier member entry List.mem_cons_self
      have grown : (start.insert entry.1 entry.2).entries = start.entries ++ [entry] := insertEntry_last above
      rw [List.foldl_cons, ih (start.insert entry.1 entry.2) (by rw [grown]; simpa using ascending), grown]
      simp
  exact eq_of_entries_eq (extend dictionary.entries empty dictionary.ascending)

theorem contains_eq_isSome (dictionary : Dictionary α) (key : String) :
    dictionary.contains key = (dictionary.get? key).isSome := by
  rw [Bool.eq_iff_iff, Option.isSome_iff_exists]
  simp [contains, get?_eq_some_iff]

theorem get?_mapValues {β : Type} (dictionary : Dictionary α) (change : α → β) (key : String) :
    (dictionary.mapValues change).get? key = (dictionary.get? key).map change := by
  apply Option.ext
  intro held
  simp only [get?_eq_some_iff, Option.map_eq_some_iff, mapValues, List.mem_map, Prod.mk.injEq, Prod.exists]
  constructor
  · rintro ⟨other, value, member, rfl, rfl⟩
    exact ⟨value, member, rfl⟩
  · rintro ⟨value, member, rfl⟩
    exact ⟨key, value, member, rfl, rfl⟩

theorem get?_erase (dictionary : Dictionary α) (key other : String) :
    (dictionary.erase key).get? other = if other = key then none else dictionary.get? other := by
  apply Option.ext
  intro held
  simp only [get?_eq_some_iff, erase, List.mem_filter, decide_eq_true_eq]
  by_cases same : other = key
  · simp [same]
  · simp [same, get?_eq_some_iff]

/-- The entries of one key are the one it has, if any. -/
theorem filter_entries (dictionary : Dictionary α) (key : String) :
    dictionary.entries.filter (·.1 = key) = (dictionary.get? key).toList.map (key, ·) := by
  have own := (dictionary.entries_perm key).filter (·.1 = key)
  rw [List.filter_append, List.filter_filter] at own
  cases found : dictionary.get? key with
  | none => simpa [found] using own
  | some value => simpa [found] using own

end WorkflowSynthesis.Dictionary
