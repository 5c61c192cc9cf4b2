import WorkflowSynthesis.Pattern.Matching

/-!
Patterns in texts whose characters are changed. If no set and no boundary of a pattern tells a character from what it is
changed to, the search goes the same way through both texts, and finds the same places.
-/

namespace WorkflowSynthesis

section Places

variable (change : Char → Char)

def Place.map (place : Place) : Place :=
  { before := place.before.map change, rest := place.rest.map change, left := place.left }

@[simp]
theorem Place.left_map (place : Place) : (place.map change).left = place.left := rfl

theorem Place.next?_map (place : Place) : (place.map change).next? = place.next?.map (Place.map change) := by
  obtain ⟨before, rest, left⟩ := place
  cases rest <;> rfl

/-- Marks are pairs of a slot and a place. -/
def Place.mapMarks (marks : List (Nat × Place)) : List (Nat × Place) :=
  marks.map fun mark => (mark.1, mark.2.map change)

theorem Place.lookup_mapMarks (marks : List (Nat × Place)) (slot : Nat) :
    (mapMarks change marks).lookup slot = (marks.lookup slot).map (Place.map change) := by
  induction marks with
  | nil => rfl
  | cons mark rest ih =>
    rw [mapMarks, List.map_cons, List.lookup_cons, List.lookup_cons]
    cases slot == mark.1 with
    | true => rfl
    | false => exact ih

def Thread.map (thread : Thread) : Thread :=
  { start := thread.start.map change, position := thread.position, marks := Place.mapMarks change thread.marks }

@[simp]
theorem Thread.position_map (thread : Thread) : (thread.map change).position = thread.position := rfl

def Trail.map (found : Trail) : Trail :=
  { start := found.start.map change, finish := found.finish.map change, marks := Place.mapMarks change found.marks }

theorem Trail.isEmpty_map (found : Trail) : (found.map change).isEmpty = found.isEmpty := rfl

theorem Trail.between_map (first last : Place) :
    between (first.map change) (last.map change) = (between first last).map change := by
  rw [between, between, List.map_take]
  rfl

/-- What a group holds is changed with the text. -/
theorem Trail.group?_map (found : Trail) (index : Nat) :
    (found.map change).group? index = (found.group? index).map (String.map change) := by
  have marked (slot : Nat) : (found.map change).marks.lookup slot = (found.marks.lookup slot).map (Place.map change) :=
    Place.lookup_mapMarks change found.marks slot
  rw [group?, group?, marked, marked]
  cases found.marks.lookup (2 * index) with
  | none => rfl
  | some first =>
    cases found.marks.lookup (2 * index + 1) with
    | none => rfl
    | some last =>
      have text : String.ofList (between (first.map change) (last.map change)) =
          (String.ofList (between first last)).map change := by
        rw [between_map, ← String.toList_inj, String.toList_map, String.toList_ofList, String.toList_ofList]
      exact congrArg some text

def Frontier.map (frontier : Frontier) : Frontier :=
  { visited := frontier.visited, threads := frontier.threads.map (Thread.map change) }

end Places

namespace Pattern

/-- Whether a pattern cannot tell characters from what they are changed to. -/
structure Admits (pattern : Pattern) (change : Char → Char) : Prop where
  sets : ∀ (set : CharSet) (next : Nat), .one set next ∈ pattern.instructions →
    ∀ c, set.contains (change c) = set.contains c
  words : ∀ c, Property.isWordChar (change c) = Property.isWordChar c
  lines : ∀ c, change c = '\n' ↔ c = '\n'

variable {change : Char → Char} {pattern : Pattern}

theorem Admits.holds (admits : pattern.Admits change) (condition : Boundary) (before after : Option Char) :
    condition.holds (before.map change) (after.map change) = condition.holds before after := by
  have word (c : Option Char) : Boundary.isWord (c.map change) = Boundary.isWord c := by
    cases c with
    | none => rfl
    | some c => exact admits.words c
  have line (c : Option Char) : (c.map change == some '\n') = (c == some '\n') := by
    rw [Bool.eq_iff_iff, beq_iff_eq, beq_iff_eq]
    cases c with
    | none => simp
    | some c => simpa using admits.lines c
  cases condition <;> simp only [Boundary.holds, word, line, Option.isNone_map]

/-- A boundary holds at a place of the changed text if it holds at that of the text. -/
theorem Admits.holds_map (admits : pattern.Admits change) (condition : Boundary) (place : Place) :
    condition.holds (place.map change).before (place.map change).rest.head? =
      condition.holds place.before place.rest.head? := by
  rw [Place.map, List.head?_map, admits.holds]

theorem follow_map (admits : pattern.Admits change) (place : Place) (fuel : Nat) (pending : List Thread)
    (frontier : Frontier) :
    pattern.follow (place.map change) fuel (pending.map (Thread.map change)) (frontier.map change) =
      (pattern.follow place fuel pending frontier).map change := by
  -- As many characters are left in both texts, so an instruction was visited in both or in neither.
  fun_induction follow pattern place fuel pending frontier with
  | case1 => rfl
  | case2 fuel => cases fuel <;> rfl
  | case3 fuel thread pending visited threads seen ih =>
    rw [← ih]
    simp only [List.map_cons, Frontier.map, follow, Place.left_map, Thread.position_map]
    exact if_pos seen
  | case4 fuel thread pending visited threads fresh _ condition next read waiting ih =>
    rw [← ih]
    simp only [List.map_cons, Frontier.map, follow, Place.left_map, Thread.position_map, if_neg fresh, read,
      admits.holds_map]
    split
    · next holds =>
      simp only [waiting, if_pos holds]
      rfl
    · next fails =>
      simp only [waiting, if_neg fails]
      rfl
  | case5 fuel thread pending visited threads fresh _ slot next read _ ih =>
    rw [← ih]
    simp only [List.map_cons, Frontier.map, follow, Place.left_map, Thread.position_map, if_neg fresh, read]
    rfl
  | case6 fuel thread pending visited threads fresh _ first second read ih =>
    rw [← ih]
    simp only [List.map_cons, Frontier.map, follow, Place.left_map, Thread.position_map, if_neg fresh, read]
    rfl
  | case7 fuel thread pending visited threads fresh _ check mark split ih =>
    rw [← ih]
    simp only [List.map_cons, Frontier.map, follow, Place.left_map, Thread.position_map, if_neg fresh]
    rfl

theorem enter_map (admits : pattern.Admits change) (place : Place) (frontier : Frontier) (thread : Thread) :
    pattern.enter (place.map change) (frontier.map change) (thread.map change) =
      (pattern.enter place frontier thread).map change :=
  follow_map admits place (2 * pattern.instructions.size + 1) [thread] frontier

theorem settle_map (place : Place) (threads : List Thread) :
    pattern.settle (place.map change) (threads.map (Thread.map change)) =
      ((pattern.settle place threads).1.map (Thread.map change),
        (pattern.settle place threads).2.map (Trail.map change)) := by
  induction threads with
  | nil => rfl
  | cons thread others ih =>
    rw [List.map_cons, settle, settle, ih, Thread.position_map]
    split <;> rfl

/-- A thread is taken over a character if it is taken over what that is changed to. -/
theorem advance_map (admits : pattern.Admits change) (c : Char) (place : Place) (threads : List Thread)
    (visited : Array Nat) :
    pattern.advance (change c) (place.map change) (threads.map (Thread.map change)) visited =
      (pattern.advance c place threads visited).map change := by
  rw [advance, advance, List.foldl_map]
  refine @List.foldl_hom _ _ _ (Frontier.map change) _ _ threads { visited } fun frontier thread => ?_
  rw [Thread.position_map]
  split
  · next set next read =>
    rw [admits.sets set next (Array.mem_of_getElem? read) c]
    split
    · exact enter_map admits place frontier { thread with position := next }
    · rfl
  · rfl

/-- The frontier at a place that a search comes to: while nothing is found a new thread begins there. -/
def begun (pattern : Pattern) (place : Place) (frontier : Frontier) (best : Option Trail) : Frontier :=
  if best.isSome then frontier else pattern.enter place frontier { start := place, position := pattern.start }

theorem begun_map (admits : pattern.Admits change) (place : Place) (frontier : Frontier) (best : Option Trail) :
    pattern.begun (place.map change) (frontier.map change) (best.map (Trail.map change)) =
      (pattern.begun place frontier best).map change := by
  rw [begun, begun, Option.isSome_map]
  split
  · rfl
  · exact enter_map admits place frontier { start := place, position := pattern.start }

/-- What a search finds among the threads at a place. -/
def settled (pattern : Pattern) (place : Place) (frontier : Frontier) (best : Option Trail) :
    List Thread × Option Trail :=
  pattern.settle place (pattern.begun place frontier best).threads.reverse

theorem settled_map (admits : pattern.Admits change) (place : Place) (frontier : Frontier) (best : Option Trail) :
    pattern.settled (place.map change) (frontier.map change) (best.map (Trail.map change)) =
      ((pattern.settled place frontier best).1.map (Thread.map change),
        (pattern.settled place frontier best).2.map (Trail.map change)) := by
  rw [settled, begun_map admits, Frontier.map, ← List.map_reverse, settle_map, settled]

theorem searchFrom_nil (before : Option Char) (frontier : Frontier) (best : Option Trail) (left : Nat) :
    pattern.searchFrom before frontier best [] left = (pattern.settled ⟨before, [], left⟩ frontier best).2.or best :=
  rfl

theorem searchFrom_further (before : Option Char) (frontier : Frontier) (best : Option Trail) (c : Char)
    (rest : List Char) (left : Nat) :
    pattern.searchFrom before frontier best (c :: rest) left =
      let place : Place := ⟨before, c :: rest, left⟩
      let look := pattern.settled place frontier best
      if look.1.isEmpty && (look.2.or best).isSome then look.2.or best
      else pattern.searchFrom (some c) (pattern.advance c ⟨some c, rest, left - 1⟩ look.1
        (pattern.begun place frontier best).visited) (look.2.or best) rest (left - 1) := rfl

theorem searchFrom_map (admits : pattern.Admits change) (rest : List Char) (before : Option Char) (frontier : Frontier)
    (best : Option Trail) (left : Nat) :
    pattern.searchFrom (before.map change) (frontier.map change) (best.map (Trail.map change)) (rest.map change) left =
      (pattern.searchFrom before frontier best rest left).map (Trail.map change) := by
  induction rest generalizing before frontier best left with
  | nil =>
    have look := settled_map admits ⟨before, [], left⟩ frontier best
    rw [List.map_nil, searchFrom_nil, searchFrom_nil, Option.map_or]
    exact congrArg (fun look => look.2.or (best.map (Trail.map change))) look
  | cons c rest ih =>
    have look := settled_map admits ⟨before, c :: rest, left⟩ frontier best
    have begun := begun_map admits ⟨before, c :: rest, left⟩ frontier best
    have place : (⟨before.map change, change c :: rest.map change, left⟩ : Place) =
      Place.map change ⟨before, c :: rest, left⟩ := rfl
    rw [List.map_cons, searchFrom_further, searchFrom_further]
    dsimp only
    rw [place, look, begun, List.isEmpty_map, ← Option.map_or, Option.isSome_map]
    split
    · rfl
    · rw [← ih, ← advance_map admits]
      rfl

theorem search_map (admits : pattern.Admits change) (place : Place) :
    pattern.search (place.map change) = (pattern.search place).map (Trail.map change) :=
  searchFrom_map admits place.rest place.before (pattern.frontier place) none place.left

theorem nextMatch_map (admits : pattern.Admits change) (place : Place) (lastEnd : Option Nat) :
    pattern.nextMatch (place.map change) lastEnd = (pattern.nextMatch place lastEnd).map (Trail.map change) := by
  rw [nextMatch, nextMatch, search_map admits, Place.next?_map]
  cases pattern.search place with
  | none => rfl
  | some found =>
    have finish : (found.map change).finish.left = found.finish.left := rfl
    rw [Option.map_some, Option.bind_eq_bind, Option.bind_some, Option.bind_eq_bind, Option.bind_some,
      Trail.isEmpty_map, finish]
    split
    · cases place.next? with
      | none => rfl
      | some next => exact search_map admits next
    · rfl

theorem matchesFrom_map (admits : pattern.Admits change) (fuel : Nat) (place : Place) (lastEnd : Option Nat) :
    pattern.matchesFrom fuel (place.map change) lastEnd =
      (pattern.matchesFrom fuel place lastEnd).map (Trail.map change) := by
  induction fuel generalizing place lastEnd with
  | zero => rfl
  | succ fuel ih =>
    rw [matchesFrom, matchesFrom, nextMatch_map admits]
    cases pattern.nextMatch place lastEnd with
    | none => rfl
    | some found => exact congrArg (found.map change :: ·) (ih found.finish (some found.finish.left))

theorem start_map (text : String) : Place.start (text.map change).toList = (Place.start text.toList).map change := by
  rw [String.toList_map, Place.start, List.length_map]
  rfl

theorem allMatches_map (admits : pattern.Admits change) (text : String) :
    pattern.allMatches (text.map change) = (pattern.allMatches text).map (Trail.map change) := by
  rw [allMatches, allMatches, start_map]
  exact matchesFrom_map admits _ _ none

/-- A pattern matches the changed text if it matches the text. -/
theorem matchesText_map (admits : pattern.Admits change) (text : String) :
    pattern.matchesText (text.map change) = pattern.matchesText text := by
  rw [matchesText, matchesText, start_map, search_map admits, Option.isSome_map]

end Pattern

end WorkflowSynthesis
