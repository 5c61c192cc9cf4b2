import Mathlib.Data.Nat.Find
import Mathlib.Logic.Function.Iterate
import Mathlib.Order.Bounds.Defs
import WorkflowSynthesis.Proofs.Notes.Attachment
import WorkflowSynthesis.Proofs.Workflow.Moves

/-!
Loops that look for something free. They go from one candidate to the next as long as it is taken. Candidates that
differ cannot all be taken, so each of these loops comes to an end, and what is found without a loop is what the loop
ends with: the first candidate that is free.
-/

namespace WorkflowSynthesis

/-- Whether a loop goes on from a state, and the state after one more round. -/
structure Loop (State : Type) where
  goesOn : State → Bool
  round : State → State

namespace Loop

variable {State : Type} {loop : Loop State} {state last : State} {rounds : Nat}

/-- The loop comes from one state to another in a number of rounds, and stops there. -/
inductive Ends (loop : Loop State) : State → Nat → State → Prop
  | stop {state : State} (stops : loop.goesOn state = false) : Ends loop state 0 state
  | again {state last : State} {rounds : Nat} (goesOn : loop.goesOn state = true)
      (ends : Ends loop (loop.round state) rounds last) : Ends loop state (rounds + 1) last

/-- A loop ends in one way at most. -/
theorem Ends.unique (ends : loop.Ends state rounds last) {others : Nat} {other : State}
    (also : loop.Ends state others other) : rounds = others ∧ last = other := by
  induction ends generalizing others with
  | stop stops =>
    cases also with
    | stop => exact ⟨rfl, rfl⟩
    | again goesOn => simp [stops] at goesOn
  | again goesOn _ ih =>
    cases also with
    | stop stops => simp [stops] at goesOn
    | again _ ends =>
      obtain ⟨sameRounds, sameLast⟩ := ih ends
      exact ⟨congrArg (· + 1) sameRounds, sameLast⟩

theorem ends_iterate (goesOn : ∀ earlier < rounds, loop.goesOn (loop.round^[earlier] state) = true)
    (stops : loop.goesOn (loop.round^[rounds] state) = false) : loop.Ends state rounds (loop.round^[rounds] state) := by
  induction rounds generalizing state with
  | zero => exact .stop stops
  | succ rounds ih =>
    exact .again (goesOn 0 (Nat.succ_pos _)) (ih (fun earlier less => goesOn (earlier + 1) (by omega)) stops)

/-- A loop that only goes on while its candidate is taken, and never comes back to a candidate, ends within as many
rounds as there are taken ones. -/
theorem exists_ends {Candidate : Type} (taken : List Candidate) (candidate : State → Candidate)
    (only : ∀ state, loop.goesOn state = true → candidate state ∈ taken)
    (distinct : Function.Injective fun rounds => candidate (loop.round^[rounds] state)) :
    ∃ rounds ≤ taken.length, ∃ last, loop.Ends state rounds last := by
  obtain ⟨number, _, most, free⟩ := Free.exists_not_mem taken distinct 0
  have stops : loop.goesOn (loop.round^[number] state) = false := Bool.eq_false_iff.mpr fun goes => free (only _ goes)
  have stopping : ∃ rounds, loop.goesOn (loop.round^[rounds] state) = false := ⟨number, stops⟩
  refine ⟨Nat.find stopping, ?_, _, ends_iterate (fun earlier less => ?_) (Nat.find_spec stopping)⟩
  · have first := Nat.find_min' stopping stops
    omega
  · simpa using Nat.find_min stopping less

end Loop

namespace Free

/-- Numbers a text until it is free: the candidate, and the number of the next one. -/
def numbering (taken : List String) (text separator : String) : Loop (String × Nat) where
  goesOn state := taken.contains state.1
  round state := (numbered text separator state.2, state.2 + 1)

/-- Draws identifiers until one is free or as many as allowed are drawn: the last one, and how many they are. -/
def drawing (taken : List String) (identifiers : Nat → String) : Loop (String × Nat) where
  goesOn state := taken.contains state.1 && state.2 != maximumDraws
  round state := (identifiers state.2, state.2 + 1)

section Numbering

variable {taken : List String} {base separator : String}

theorem ne_numbered (base separator : String) (number : Nat) : base ≠ numbered base separator number := by
  intro same
  have lengths := congrArg String.length same
  have digits : 0 < (toString number).length := by
    rw [Nat.toString_eq_repr]
    exact Nat.length_repr_pos
  rw [numbered, String.length_append, String.length_append] at lengths
  omega

theorem iterate_numbering (text : String) (number rounds : Nat) :
    (numbering taken base separator).round^[rounds + 1] (text, number) =
      (numbered base separator (number + rounds), number + rounds + 1) := by
  induction rounds with
  | zero => rfl
  | succ rounds ih =>
    rw [Function.iterate_succ_apply', ih]
    rfl

/-- Candidates with numbers differ, so no candidate comes back if the first is none of those with numbers. -/
theorem injective_iterate_numbering {text : String} {number : Nat}
    (new : ∀ rounds, text ≠ numbered base separator (number + rounds)) :
    Function.Injective fun rounds => ((numbering taken base separator).round^[rounds] (text, number)).1 := by
  intro first second same
  dsimp only at same
  cases first with
  | zero =>
    cases second with
    | zero => rfl
    | succ second =>
      rw [iterate_numbering] at same
      exact absurd same (new second)
  | succ first =>
    cases second with
    | zero =>
      rw [iterate_numbering] at same
      exact absurd same.symm (new first)
    | succ second =>
      rw [iterate_numbering, iterate_numbering] at same
      have numbers := numbered_injective _ _ same
      omega

theorem exists_ends_numbering (taken : List String) {text : String} {number : Nat}
    (new : ∀ rounds, text ≠ numbered base separator (number + rounds)) :
    ∃ rounds ≤ taken.length, ∃ last, (numbering taken base separator).Ends (text, number) rounds last :=
  Loop.exists_ends taken Prod.fst (fun _ goes => List.contains_iff_mem.mp goes) (injective_iterate_numbering new)

/-- From every text and number on, numbering ends. -/
theorem numbering_ends (taken : List String) (base separator : String) (state : String × Nat) :
    ∃ rounds last, (numbering taken base separator).Ends state rounds last := by
  obtain ⟨text, number⟩ := state
  cases goes : (numbering taken base separator).goesOn (text, number) with
  | false => exact ⟨0, _, .stop goes⟩
  | true =>
    have new : ∀ rounds, numbered base separator number ≠ numbered base separator (number + 1 + rounds) := by
      intro rounds same
      have numbers := numbered_injective _ _ same
      omega
    obtain ⟨rounds, _, last, ends⟩ := exists_ends_numbering taken new
    exact ⟨rounds + 1, last, .again goes ends⟩

/-- What a text is numbered to: itself if it is free, otherwise with the least number from two on that makes it free.
The loop ends with it after as many rounds as there are taken texts, or earlier, so the numbers stay as low. -/
structure NumberedTo (taken : List String) (base separator text : String) : Prop where
  ends : ∃ rounds ≤ taken.length, (numbering taken base separator).Ends (base, 2) rounds (text, rounds + 2)
  free : text ∉ taken
  kept : base ∉ taken → text = base
  least : base ∈ taken → ∃ number, text = numbered base separator number ∧
    IsLeast {number | 2 ≤ number ∧ numbered base separator number ∉ taken} number

theorem numberedTo_self (free : base ∉ taken) : NumberedTo taken base separator base where
  ends := ⟨0, Nat.zero_le _, .stop (by simpa [numbering] using free)⟩
  free := free
  kept _ := rfl
  least held := absurd held free

theorem numberedTo_firstNumbered (held : base ∈ taken) :
    NumberedTo taken base separator (firstNumbered taken base separator) := by
  obtain ⟨number, same, low, _, free, smaller⟩ := firstNumbered_spec taken base separator
  obtain ⟨rounds, rfl⟩ := Nat.exists_eq_add_of_le low
  have ends : (numbering taken base separator).Ends (base, 2) (rounds + 1)
      (numbered base separator (2 + rounds), 2 + rounds + 1) := by
    rw [← iterate_numbering base]
    refine Loop.ends_iterate (fun earlier less => ?_) ?_
    · cases earlier with
      | zero => exact List.contains_iff_mem.mpr held
      | succ earlier =>
        rw [iterate_numbering]
        exact List.contains_iff_mem.mpr (smaller _ (by omega) (by omega))
    · rw [iterate_numbering]
      simpa [numbering] using free
  have few : rounds + 1 ≤ taken.length := by
    obtain ⟨others, few, _, also⟩ :=
      exists_ends_numbering taken fun rounds => ne_numbered base separator (2 + rounds)
    rw [(ends.unique also).1]
    exact few
  rw [same]
  refine ⟨⟨rounds + 1, few, ?_⟩, free, absurd held, fun _ => ⟨2 + rounds, rfl, ⟨low, free⟩, ?_⟩⟩
  · rwa [Nat.add_right_comm, Nat.add_comm rounds 2]
  · rintro other ⟨above, unused⟩
    exact Nat.le_of_not_lt fun less => unused (smaller other above less)

theorem numberedTo_name (taken : List String) (base : String) : NumberedTo taken base " " (name taken base) := by
  unfold name
  split
  · next held => exact numberedTo_firstNumbered (List.contains_iff_mem.mp held)
  · next free => exact numberedTo_self (by simpa using free)

end Numbering

section Drawing

theorem iterate_drawing (taken : List String) (identifiers : Nat → String) (rounds : Nat) :
    (drawing taken identifiers).round^[rounds] (identifiers 0, 1) = (identifiers rounds, rounds + 1) := by
  induction rounds with
  | zero => rfl
  | succ rounds ih =>
    rw [Function.iterate_succ_apply', ih]
    rfl

/-- Where an identifier comes from: the draw of a number is the last one. It is the first one that is free, if one is
among as many as are allowed, and otherwise numbered after a hyphen. -/
structure DrawnBy (taken : List String) (identifiers : Nat → String) (last : Nat) (id : String) : Prop where
  ends : (drawing taken identifiers).Ends (identifiers 0, 1) last (identifiers last, last + 1)
  numbered : NumberedTo taken (identifiers last) "-" id
  earlier : ∀ index < last, identifiers index ∈ taken
  allowed : last < maximumDraws
  collided : identifiers last ∈ taken → last + 1 = maximumDraws

theorem drawnBy_identifier (taken : List String) (identifiers : Nat → String) :
    ∃ last, (identifier taken identifiers).2 = last + 1 ∧
      DrawnBy taken identifiers last (identifier taken identifiers).1 := by
  have ends : ∀ last, last < maximumDraws → (∀ index < last, identifiers index ∈ taken) →
      (drawing taken identifiers).goesOn (identifiers last, last + 1) = false →
        (drawing taken identifiers).Ends (identifiers 0, 1) last (identifiers last, last + 1) := by
    intro last allowed earlier stops
    rw [← iterate_drawing taken identifiers last]
    refine Loop.ends_iterate (fun index less => ?_) (by rwa [iterate_drawing])
    rw [iterate_drawing]
    have more : index + 1 ≠ maximumDraws := by omega
    simp [drawing, earlier index less, more]
  unfold identifier
  split
  · next index found =>
    obtain ⟨free, listed, before⟩ := List.find?_range_eq_some.mp found
    have free : identifiers index ∉ taken := by simpa using free
    have earlier : ∀ other < index, identifiers other ∈ taken := fun other less => by simpa using before other less
    have allowed := List.mem_range.mp listed
    exact ⟨index, rfl, ends index allowed earlier (by simp [drawing, free]), numberedTo_self free, earlier, allowed,
      fun held => absurd held free⟩
  · next unfound =>
    have collided : ∀ index < maximumDraws, identifiers index ∈ taken := by
      simpa using List.find?_range_eq_none.mp unfound
    have held : identifiers (maximumDraws - 1) ∈ taken := collided _ (by decide)
    have earlier : ∀ index < maximumDraws - 1, identifiers index ∈ taken := fun index less => collided index (by omega)
    exact ⟨maximumDraws - 1, rfl, ends _ (by decide) earlier (by simp [drawing, maximumDraws]),
      numberedTo_firstNumbered held, earlier, by decide, fun _ => rfl⟩

end Drawing

end Free

namespace Draft

/-- Goes down the lanes of a stage until one is free. -/
def descending (draft : Draft) (stage : Nat) : Loop Nat where
  goesOn lane := draft.isOccupied stage lane
  round lane := lane + 1

variable {draft : Draft} {stage : Nat}

theorem iterate_descending (lane rounds : Nat) : (draft.descending stage).round^[rounds] lane = lane + rounds := by
  induction rounds with
  | zero => rfl
  | succ rounds ih =>
    rw [Function.iterate_succ_apply', ih]
    rfl

/-- From every lane on, the way down ends, as only nodes take lanes. -/
theorem exists_ends_descending (draft : Draft) (stage lane : Nat) :
    ∃ rounds ≤ draft.placements.length, ∃ last, (draft.descending stage).Ends lane rounds last := by
  rw [← List.length_map Placement.cell]
  refine Loop.exists_ends (draft.placements.map Placement.cell) (fun lane => (stage, lane)) (fun lane goes => ?_) ?_
  · by_contra free
    simp [descending, isOccupied_eq_false.mpr free] at goes
  · intro first second same
    simpa [iterate_descending] using same

theorem isLeast_nextLane (draft : Draft) (stage : Nat) :
    IsLeast {lane | 1 ≤ lane ∧ draft.isOccupied stage lane = false} (draft.nextLane stage) := by
  obtain ⟨low, free, before⟩ := draft.nextLane_spec stage
  refine ⟨⟨low, free⟩, ?_⟩
  rintro lane ⟨above, unused⟩
  exact Nat.le_of_not_lt fun less => by simp [before lane above less] at unused

theorem ends_nextLane (draft : Draft) (stage : Nat) :
    ∃ rounds ≤ draft.placements.length, (draft.descending stage).Ends 1 rounds (draft.nextLane stage) := by
  obtain ⟨low, free, before⟩ := draft.nextLane_spec stage
  obtain ⟨rounds, lane⟩ := Nat.exists_eq_add_of_le low
  have ends : (draft.descending stage).Ends 1 rounds (draft.nextLane stage) := by
    rw [lane, ← iterate_descending]
    refine Loop.ends_iterate (fun earlier less => ?_) ?_
    · rw [iterate_descending]
      exact before _ (by omega) (by omega)
    · rw [iterate_descending, ← lane]
      exact free
  obtain ⟨others, few, _, also⟩ := exists_ends_descending draft stage 1
  exact ⟨rounds, (ends.unique also).1 ▸ few, ends⟩

end Draft

/-- Whatever is taken, every search for something free ends, from wherever it starts, and finds the first that is free:
a new node the name of its step or the least number behind it, a new branch the least lane, a new note its name in the
same way, and an identifier that is drawn at once or later, or that gets a number when all draws that are allowed are
taken. -/
theorem finds_first_free :
    (∀ (taken : List String) (base separator : String) (state : String × Nat),
      ∃ rounds last, (Free.numbering taken base separator).Ends state rounds last) ∧
    (∀ (draft : Draft) (stage lane : Nat), ∃ rounds last, (draft.descending stage).Ends lane rounds last) ∧
    (∀ (draft : Draft) (drawing : Drawing) (step : Step) (stage lane : Nat),
      Free.NumberedTo draft.names step.name " " (draft.nextNode drawing step stage lane).name) ∧
    (∀ (draft : Draft) (stage : Nat),
      (∃ rounds ≤ draft.placements.length, (draft.descending stage).Ends 1 rounds (draft.nextLane stage)) ∧
        IsLeast {lane | 1 ≤ lane ∧ draft.isOccupied stage lane = false} (draft.nextLane stage)) ∧
    ∀ (grid : Grid) (settings : NoteSettings) (identifiers : Identifiers) (top : Int) (state : Attachment.State)
      (note : Note), ∃ node last,
        Attachment.stick grid settings identifiers top state note =
            { nodes := state.nodes ++ [node], drawn := state.drawn + (last + 1) } ∧
          Free.NumberedTo (state.nodes.map Node.name) "Sticky Note" " " node.name ∧
          Free.DrawnBy (state.nodes.map (·.id)) (identifiers.after state.drawn) last node.id := by
  refine ⟨Free.numbering_ends, fun draft stage lane => ?_, fun draft drawing step stage lane => ?_,
    fun draft stage => ⟨draft.ends_nextLane stage, draft.isLeast_nextLane stage⟩,
    fun grid settings identifiers top state note => ?_⟩
  · obtain ⟨rounds, _, last, ends⟩ := draft.exists_ends_descending stage lane
    exact ⟨rounds, last, ends⟩
  · exact Free.numberedTo_name draft.names step.name
  · obtain ⟨last, count, drawn⟩ :=
      Free.drawnBy_identifier (state.nodes.map (·.id)) (identifiers.after state.drawn)
    refine ⟨Attachment.noteNode grid settings identifiers top state note, last, ?_, Free.numberedTo_name _ _, ?_⟩
    · rw [Attachment.stick_eq, count]
    · rwa [Attachment.id_noteNode]

/-- A name may already look like one with a number, and one number may be left out. -/
example : Free.name ["Code", "Code 2", "Code 4"] "Code" = "Code 3" := by decide

end WorkflowSynthesis
