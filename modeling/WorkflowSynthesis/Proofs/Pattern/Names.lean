import WorkflowSynthesis.Pattern.Reader
import WorkflowSynthesis.Proofs.Pattern.Transport
import WorkflowSynthesis.Settings.Basic

/-!
What the standard pattern of names matches: a capital, and then letters, digits, white space, underscores and
hyphens to the end of the text. The threads of a search are told place by place.
-/

namespace WorkflowSynthesis

/-- Whether the six instructions were visited when at least so many characters were left. -/
structure Frontier.Before (frontier : Frontier) (left : Nat) : Prop where
  size : frontier.visited.size = 6
  least : ∀ visit ∈ frontier.visited, left ≤ visit

theorem Frontier.Before.mono {frontier : Frontier} {left fewer : Nat} (before : frontier.Before left)
    (less : fewer ≤ left) : frontier.Before fewer :=
  ⟨before.size, fun visit member => Nat.le_trans less (before.least visit member)⟩

namespace Pattern

theorem before_follow (pattern : Pattern) (place : Place) (fuel : Nat) (threads : List Thread) {frontier : Frontier}
    (before : frontier.Before place.left) : (pattern.follow place fuel threads frontier).Before place.left := by
  have visit : ∀ {visited : Array Nat} {threads others : List Thread} (position : Nat),
      Frontier.Before ⟨visited, threads⟩ place.left →
        Frontier.Before ⟨visited.setIfInBounds position place.left, others⟩ place.left := by
    intro visited threads others position before
    refine ⟨by simpa using before.size, fun visit member => ?_⟩
    rcases Array.mem_or_eq_of_mem_setIfInBounds member with old | rfl
    · exact before.least visit old
    · exact Nat.le_refl _
  fun_induction follow with
  | case1 | case2 => exact before
  | case3 => next ih => exact ih before
  | case4 | case5 | case6 | case7 => next ih => exact ih (visit _ before)

def capitals : CharSet := ⟨[(65, 90)]⟩

/-- ASCII letters and digits, white space, the underscore and the hyphen. -/
def nameChars : CharSet := ⟨[
  (9, 13), (32, 32), (45, 45), (48, 57), (65, 90), (95, 95), (97, 122), (133, 133), (160, 160), (5760, 5760),
  (8192, 8202), (8232, 8233), (8239, 8239), (8287, 8287), (12288, 12288)]⟩

/-- A capital at the start of a text, and characters of names to its end. -/
def standardName : Pattern where
  instructions := #[.accept, .check .textEnd 0, .split 3 1, .one nameChars 2, .one capitals 2, .check .textStart 4]
  start := 5

theorem parse?_standardName : Pattern.parse? ({} : NamingSettings).pattern false = some standardName := by
  decide +kernel

section Matching

/-- The threads that wait behind a character of a name, the least preferred first: one for further ones, and
at the end of the text one that accepts. -/
def nameThreads (start : Place) (rest : List Char) : List Thread :=
  (if rest = [] then [{ start, position := 0 }] else []) ++ [{ start, position := 3 }]

/-- The thread that begins at the start of a text waits for a capital. -/
theorem threads_enter_first (rest : List Char) (left : Nat) :
    (standardName.enter ⟨none, rest, left⟩ (standardName.frontier ⟨none, rest, left⟩)
      { start := ⟨none, rest, left⟩, position := 5 }).threads = [{ start := ⟨none, rest, left⟩, position := 4 }] := by
  simp [enter, frontier, standardName, follow, Boundary.holds]

/-- No thread begins behind the start of a text. -/
theorem threads_enter_start (place : Place) (inside : place.before.isSome) (frontier : Frontier) :
    (standardName.enter place frontier { start := place, position := 5 }).threads = frontier.threads := by
  obtain ⟨visited, threads⟩ := frontier
  obtain ⟨c, before⟩ := Option.isSome_iff_exists.mp inside
  rw [enter, follow]
  dsimp only
  split
  · simp [standardName, follow]
  · simp [standardName, follow, Boundary.holds, before]

theorem threads_enter_more {start place : Place} {visited : Array Nat}
    (early : Frontier.Before ⟨visited, []⟩ (place.left + 1)) :
    (standardName.enter place ⟨visited, []⟩ { start, position := 2 }).threads = nameThreads start place.rest := by
  obtain ⟨size, least⟩ := early
  match visited, size with
  | ⟨[zeroth, first, second, third, fourth, fifth]⟩, _ =>
    simp only [List.mem_toArray, List.forall_mem_cons, List.not_mem_nil, false_imp_iff, implies_true] at least
    have unvisited : zeroth ≠ place.left ∧ first ≠ place.left ∧ second ≠ place.left ∧ third ≠ place.left := by omega
    cases rest : place.rest <;> simp [enter, standardName, follow, nameThreads, rest, unvisited, Boundary.holds]

/-- Behind the start of a text a search only goes on with the threads that it has. -/
theorem searchFrom_end (before : Char) (frontier : Frontier) (left : Nat) :
    standardName.searchFrom (some before) frontier none [] left =
      (standardName.settle ⟨some before, [], left⟩ frontier.threads.reverse).2 := by
  have threads : (standardName.begun ⟨some before, [], left⟩ frontier none).threads = frontier.threads :=
    threads_enter_start ⟨some before, [], left⟩ rfl frontier
  rw [searchFrom_nil, settled, threads, Option.or_none]

theorem searchFrom_cons (before c : Char) (rest : List Char) {frontier : Frontier} {left : Nat}
    (early : frontier.Before (left + 1)) : ∃ visited, Frontier.Before ⟨visited, []⟩ (left + 1) ∧
      ∀ live, standardName.settle ⟨some before, c :: rest, left + 1⟩ frontier.threads.reverse = (live, none) →
        standardName.searchFrom (some before) frontier none (c :: rest) (left + 1) =
          standardName.searchFrom (some c) (standardName.advance c ⟨some c, rest, left⟩ live visited) none rest left := by
  have threads : (standardName.begun ⟨some before, c :: rest, left + 1⟩ frontier none).threads = frontier.threads :=
    threads_enter_start ⟨some before, c :: rest, left + 1⟩ rfl frontier
  have entered : (standardName.begun ⟨some before, c :: rest, left + 1⟩ frontier none).Before (left + 1) :=
    before_follow _ _ _ _ early
  refine ⟨_, ⟨entered.size, entered.least⟩, fun live found => ?_⟩
  rw [searchFrom_further]
  simp only [settled, threads, found, Option.or_none, Option.isSome_none, Bool.and_false, Bool.false_eq_true, if_false]
  rfl

/-- Without a thread nothing is found any more. -/
theorem searchFrom_without (before : Char) (rest : List Char) {visited : Array Nat}
    (early : Frontier.Before ⟨visited, []⟩ rest.length) :
    standardName.searchFrom (some before) ⟨visited, []⟩ none rest rest.length = none := by
  induction rest generalizing before visited with
  | nil => exact searchFrom_end before _ _
  | cons c rest ih =>
    obtain ⟨others, later, step⟩ := searchFrom_cons before c rest early
    rw [List.length_cons, step [] rfl]
    exact ih c (later.mono (Nat.le_succ _))

/-- A character takes the thread that waits for it to those that wait behind it. -/
theorem advance_one (start place : Place) (c : Char) {position : Nat} {set : CharSet} {visited : Array Nat}
    (waits : standardName.instructions[position]? = some (.one set 2))
    (early : Frontier.Before ⟨visited, []⟩ (place.left + 1)) :
    ∃ others, Frontier.Before ⟨others, []⟩ place.left ∧
      standardName.advance c place [{ start, position }] visited =
        ⟨others, if set.contains c then nameThreads start place.rest else []⟩ := by
  by_cases member : set.contains c = true
  · have entered : (standardName.enter place ⟨visited, []⟩ { start, position := 2 }).Before place.left :=
      before_follow _ _ _ _ (early.mono (Nat.le_succ _))
    refine ⟨_, ⟨entered.size, entered.least⟩, ?_⟩
    simp only [advance, List.foldl_cons, List.foldl_nil, waits, member, if_true]
    rw [← threads_enter_more early]
  · refine ⟨visited, early.mono (Nat.le_succ _), ?_⟩
    simp [advance, waits, member]

/-- A thread that waits for a character finds a name if it is the next one and those of names follow. -/
theorem isSome_searchFrom (start : Place) (c : Char) (rest : List Char) {position : Nat} {set : CharSet}
    {visited : Array Nat} (waits : standardName.instructions[position]? = some (.one set 2))
    (early : Frontier.Before ⟨visited, []⟩ (rest.length + 1)) :
    (standardName.searchFrom (some c)
      (standardName.advance c ⟨some c, rest, rest.length⟩ [{ start, position }] visited) none rest rest.length).isSome =
        (set.contains c && rest.all nameChars.contains) := by
  induction rest generalizing c position set visited with
  | nil =>
    obtain ⟨others, _, advanced⟩ := advance_one start ⟨some c, [], 0⟩ c waits early
    rw [List.length_nil, advanced, searchFrom_end]
    cases set.contains c <;> rfl
  | cons next rest ih =>
    obtain ⟨others, later, advanced⟩ := advance_one start ⟨some c, next :: rest, rest.length + 1⟩ c waits early
    rw [List.length_cons, advanced]
    by_cases member : set.contains c = true
    · have early : Frontier.Before ⟨others, nameThreads start (next :: rest)⟩ (rest.length + 1) := ⟨later.size, later.least⟩
      obtain ⟨visited, last, step⟩ := searchFrom_cons c next rest early
      rw [if_pos member, step [{ start, position := 3 }] rfl, ih next rfl last, member, List.all_cons, Bool.true_and]
    · rw [if_neg member]
      have lost := searchFrom_without c (next :: rest) later
      rw [List.length_cons] at lost
      simp [lost, member]

/-- The standard pattern of names matches a capital and characters of names behind it, and nothing else. -/
theorem matchesText_standardName {text : String} :
    standardName.matchesText text = true ↔
      ∃ first rest, text.toList = first :: rest ∧ capitals.contains first ∧ rest.all nameChars.contains := by
  have start : standardName.start = 5 := rfl
  rw [matchesText, search, Place.start]
  generalize text.toList = chars
  have threads := threads_enter_first chars chars.length
  have early : (standardName.enter ⟨none, chars, chars.length⟩ (standardName.frontier ⟨none, chars, chars.length⟩)
      { start := ⟨none, chars, chars.length⟩, position := 5 }).Before chars.length := by
    refine before_follow _ _ _ _ ⟨Array.size_replicate, fun visit member => ?_⟩
    rw [(Array.mem_replicate.mp member).2]
    exact Nat.le_succ _
  cases chars with
  | nil =>
    rw [searchFrom]
    simp only [Option.isSome_none, Bool.false_eq_true, if_false, start, threads]
    simp [settle, standardName]
  | cons first rest =>
    have waits : standardName.instructions[4]? = some (.one capitals 2) := rfl
    have found := isSome_searchFrom ⟨none, first :: rest, rest.length + 1⟩ first rest waits ⟨early.size, early.least⟩
    have settled : standardName.settle ⟨none, first :: rest, rest.length + 1⟩
        [{ start := ⟨none, first :: rest, rest.length + 1⟩, position := 4 }] =
          ([{ start := ⟨none, first :: rest, rest.length + 1⟩, position := 4 }], none) := rfl
    rw [List.length_cons] at threads found
    rw [searchFrom]
    simp only [Option.isSome_none, Bool.false_eq_true, if_false, start, List.length_cons, threads,
      List.reverse_singleton, settled, Option.or_none, Bool.and_false, Nat.add_sub_cancel, found, Bool.and_eq_true]
    constructor
    · rintro ⟨capital, others⟩
      exact ⟨first, rest, rfl, capital, others⟩
    · rintro ⟨_, _, same, names⟩
      cases same
      exact names

theorem matchesText_standardName_iff {text : String} :
    standardName.matchesText text = true ↔
      text.toList.head?.any capitals.contains = true ∧ text.toList.tail.all nameChars.contains = true := by
  rw [matchesText_standardName]
  cases text.toList with
  | nil => simp
  | cons first rest =>
    exact ⟨fun ⟨_, _, same, capital, others⟩ => by cases same; exact ⟨capital, others⟩,
      fun ⟨capital, others⟩ => ⟨first, rest, rfl, capital, others⟩⟩

end Matching

end Pattern

end WorkflowSynthesis
