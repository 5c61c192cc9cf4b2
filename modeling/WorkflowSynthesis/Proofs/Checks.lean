import Mathlib.Data.List.Forall2

/-! Checks one after another. The first one that fails gives the error, and only if none fails there is a result. -/

namespace WorkflowSynthesis

namespace Except

variable {ε α β : Type}

theorem bind_eq_ok {first : Except ε α} {next : α → Except ε β} {result : β} :
    (first >>= next) = .ok result ↔ ∃ value, first = .ok value ∧ next value = .ok result := by
  cases first with
  | error fault => simp [bind, Except.bind]
  | ok value => simp [bind, Except.bind]

theorem bind_eq_error {first : Except ε α} {next : α → Except ε β} {fault : ε} :
    (first >>= next) = .error fault ↔
      first = .error fault ∨ ∃ value, first = .ok value ∧ next value = .error fault := by
  cases first with
  | error other => simp [bind, Except.bind]
  | ok value => simp [bind, Except.bind]

theorem check_bind_eq_ok {check : Except ε Unit} {next : Unit → Except ε β} {result : β} :
    (check >>= next) = .ok result ↔ check = .ok () ∧ next () = .ok result := by
  rw [bind_eq_ok]
  exact ⟨fun ⟨⟨⟩, passed, rest⟩ => ⟨passed, rest⟩, fun ⟨passed, rest⟩ => ⟨(), passed, rest⟩⟩

theorem forM_eq_ok {check : α → Except ε Unit} {items : List α} :
    items.forM check = .ok () ↔ ∀ item ∈ items, check item = .ok () := by
  induction items with
  | nil => exact ⟨nofun, fun _ => rfl⟩
  | cons item rest ih =>
    change (check item >>= fun _ => rest.forM check) = .ok () ↔ _
    rw [check_bind_eq_ok, ih, List.forall_mem_cons]

/-- The error of many checks is that of one of them. -/
theorem exists_of_forM_eq_error {check : α → Except ε Unit} {items : List α} {fault : ε}
    (failed : items.forM check = .error fault) : ∃ item ∈ items, check item = .error fault := by
  induction items with
  | nil => cases failed
  | cons item rest ih =>
    change (check item >>= fun _ => rest.forM check) = .error fault at failed
    rcases bind_eq_error.mp failed with first | ⟨_, _, later⟩
    · exact ⟨item, List.mem_cons_self, first⟩
    · obtain ⟨other, member, found⟩ := ih later
      exact ⟨other, List.mem_cons_of_mem _ member, found⟩

/-- If no action fails there is a result for every item. -/
theorem mapM_eq_ok {action : α → Except ε β} {items : List α} {results : List β} :
    items.mapM action = .ok results ↔ List.Forall₂ (fun item result => action item = .ok result) items results := by
  induction items generalizing results with
  | nil => simp [pure, Except.pure, eq_comm]
  | cons item rest ih =>
    rw [List.mapM_cons, bind_eq_ok, List.forall₂_cons_left_iff]
    simp only [bind_eq_ok, ih, pure, Except.pure, Except.ok.injEq]
    constructor
    · rintro ⟨result, done, others, further, rfl⟩
      exact ⟨result, others, done, further, rfl⟩
    · rintro ⟨result, others, done, further, rfl⟩
      exact ⟨result, done, others, further, rfl⟩

/-- The error of many actions is that of the first one that fails. -/
theorem mapM_eq_error {action : α → Except ε β} {items : List α} {fault : ε} :
    items.mapM action = .error fault ↔ ∃ before item after, items = before ++ item :: after ∧
      (∀ earlier ∈ before, ∃ result, action earlier = .ok result) ∧ action item = .error fault := by
  induction items with
  | nil => simp [pure, Except.pure]
  | cons item rest ih =>
    rw [List.mapM_cons, bind_eq_error]
    constructor
    · rintro (first | ⟨result, done, later⟩)
      · exact ⟨[], item, rest, rfl, nofun, first⟩
      · rcases bind_eq_error.mp later with failed | ⟨_, _, made⟩
        · obtain ⟨before, other, after, rfl, earlier, found⟩ := ih.mp failed
          exact ⟨item :: before, other, after, rfl, List.forall_mem_cons.mpr ⟨⟨result, done⟩, earlier⟩, found⟩
        · cases made
    · rintro ⟨before, other, after, split, earlier, found⟩
      cases before with
      | nil =>
        obtain ⟨rfl, rfl⟩ := List.cons.inj split
        exact .inl found
      | cons first before =>
        obtain ⟨rfl, rfl⟩ := List.cons.inj split
        obtain ⟨⟨result, done⟩, earlier⟩ := List.forall_mem_cons.mp earlier
        exact .inr ⟨result, done, bind_eq_error.mpr (.inl (ih.mpr ⟨before, other, after, rfl, earlier, found⟩))⟩

theorem exists_of_mem_forall₂ {related : α → β → Prop} {items : List α} {results : List β}
    (each : List.Forall₂ related items results) {result : β} (member : result ∈ results) :
    ∃ item ∈ items, related item result := by
  induction each with
  | nil => cases member
  | cons made _ ih =>
    rcases List.mem_cons.mp member with rfl | later
    · exact ⟨_, List.mem_cons_self, made⟩
    · obtain ⟨item, listed, found⟩ := ih later
      exact ⟨item, List.mem_cons_of_mem _ listed, found⟩

/-- There are results if every item has one. -/
theorem exists_mapM {action : α → Except ε β} {items : List α} :
    (∃ results, items.mapM action = .ok results) ↔ ∀ item ∈ items, ∃ result, action item = .ok result := by
  constructor
  · rintro ⟨results, done⟩ item member
    obtain ⟨result, _, made⟩ := exists_of_mem_forall₂ (mapM_eq_ok.mp done).flip member
    exact ⟨result, made⟩
  · intro each
    cases done : items.mapM action with
    | ok results => exact ⟨results, rfl⟩
    | error fault =>
      obtain ⟨before, item, after, rfl, -, failed⟩ := mapM_eq_error.mp done
      obtain ⟨result, made⟩ := each item (by simp)
      rw [failed] at made
      cases made

end Except

end WorkflowSynthesis
