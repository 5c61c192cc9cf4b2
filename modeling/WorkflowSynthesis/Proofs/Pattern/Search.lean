import WorkflowSynthesis.Proofs.Pattern.Transport

/-!
What a search cannot miss. From every place the threads are followed wherever the instructions lead, so if some way
through the instructions, begun anywhere in a text, takes its characters and comes to an end, a match is found.
-/

namespace WorkflowSynthesis

namespace Instruction

/-- Where threads go on from an instruction between two characters, without taking one. -/
def successors (before after : Option Char) : Instruction → List Nat
  | .accept | .one _ _ => []
  | .check condition next => if condition.holds before after then [next] else []
  | .mark _ next => [next]
  | .split first second => [first, second]

/-- Whether threads stay at an instruction, to accept or for a character. -/
def waits : Instruction → Bool
  | .accept | .one _ _ => true
  | .check _ _ | .mark _ _ | .split _ _ => false

end Instruction

/-- Whether a way leads from an instruction, over the characters that follow a place, to the end of a match. -/
inductive Pattern.Accepts (pattern : Pattern) : Option Char → List Char → Nat → Prop
  | accept {before : Option Char} {rest : List Char} {position : Nat}
      (read : pattern.instructions[position]? = some .accept) : Accepts pattern before rest position
  | take {before : Option Char} {c : Char} {rest : List Char} {position : Nat} {set : CharSet} {next : Nat}
      (read : pattern.instructions[position]? = some (.one set next)) (member : set.contains c = true)
      (further : Accepts pattern (some c) rest next) : Accepts pattern before (c :: rest) position
  | go {before : Option Char} {rest : List Char} {position : Nat} {instruction : Instruction} {next : Nat}
      (read : pattern.instructions[position]? = some instruction)
      (leads : next ∈ instruction.successors before rest.head?) (further : Accepts pattern before rest next) :
      Accepts pattern before rest position

namespace Frontier

/-- Whether an instruction was visited when so many characters were left. -/
def Visits (frontier : Frontier) (left position : Nat) : Prop := frontier.visited.getD position left = left

instance (frontier : Frontier) (left position : Nat) : Decidable (frontier.Visits left position) :=
  inferInstanceAs (Decidable (_ = _))

/-- Whether an instruction was visited, or a thread is about to visit it. -/
def Comes (frontier : Frontier) (left : Nat) (pending : List Thread) (position : Nat) : Prop :=
  frontier.Visits left position ∨ position ∈ pending.map (·.position)

/-- How many instructions are not visited yet. -/
def unvisited (frontier : Frontier) (left : Nat) : Nat := frontier.visited.countP (· ≠ left)

variable {frontier : Frontier} {left position : Nat}

theorem lt_size_of_not_visits (fresh : ¬frontier.Visits left position) : position < frontier.visited.size := by
  refine Nat.lt_of_not_le fun outside => fresh ?_
  simp [Visits, Array.getD, Nat.not_lt.mpr outside]

theorem visits_iff (inside : position < frontier.visited.size) :
    frontier.Visits left position ↔ frontier.visited[position] = left := by
  simp [Visits, Array.getD, inside]

theorem visits_set {visited : Array Nat} (threads others : List Thread) {other : Nat} :
    Visits ⟨visited.setIfInBounds position left, others⟩ left other ↔
      other = position ∨ Visits ⟨visited, threads⟩ left other := by
  simp only [Visits, Array.getD_eq_getD_getElem?, Array.getElem?_setIfInBounds]
  by_cases same : position = other
  · subst same
    by_cases inside : position < visited.size <;> simp [inside]
  · simp [same, Ne.symm same]

/-- A visit leaves one instruction less to visit. -/
theorem unvisited_set {visited : Array Nat} {threads : List Thread} (others : List Thread)
    (fresh : ¬Visits ⟨visited, threads⟩ left position) :
    unvisited ⟨visited.setIfInBounds position left, others⟩ left + 1 = unvisited ⟨visited, threads⟩ left := by
  have inside := lt_size_of_not_visits fresh
  rw [visits_iff inside] at fresh
  have counted := Array.boole_getElem_le_countP (p := fun visit => decide (visit ≠ left)) inside
  rw [if_pos (decide_eq_true fresh)] at counted
  rw [unvisited, unvisited, Array.setIfInBounds_def, dif_pos inside, Array.countP_set, if_pos (decide_eq_true fresh),
    if_neg (by simp), Nat.add_zero, Nat.sub_add_cancel counted]

end Frontier

namespace Pattern

variable {pattern : Pattern} {place : Place} {pending : List Thread} {frontier : Frontier}

/-- Where instructions lead that were visited at a place was visited as well, but for what threads are about to visit,
and where a visited instruction makes threads wait there is one. -/
structure Explored (pattern : Pattern) (place : Place) (pending : List Thread) (frontier : Frontier) : Prop where
  size : frontier.visited.size = pattern.instructions.size
  least : ∀ visit ∈ frontier.visited, place.left ≤ visit
  further : ∀ position instruction, pattern.instructions[position]? = some instruction →
    frontier.Visits place.left position →
      ∀ next ∈ instruction.successors place.before place.rest.head?, frontier.Comes place.left pending next
  waiting : ∀ position instruction, pattern.instructions[position]? = some instruction →
    frontier.Visits place.left position → instruction.waits = true →
      ∃ thread ∈ frontier.threads, thread.position = position

namespace Explored

/-- Where nothing was visited yet there is nothing to follow. -/
theorem of_unvisited {visited : Array Nat} {threads : List Thread} (size : visited.size = pattern.instructions.size)
    (early : ∀ visit ∈ visited, place.left < visit) : Explored pattern place [] ⟨visited, threads⟩ := by
  have fresh : ∀ position instruction, pattern.instructions[position]? = some instruction →
      ¬Frontier.Visits ⟨visited, threads⟩ place.left position := by
    intro position instruction read visits
    have inside : position < visited.size := size ▸ (Array.getElem?_eq_some_iff.mp read).1
    have later := early _ (Array.getElem_mem inside)
    exact Nat.ne_of_gt later ((Frontier.visits_iff inside).mp visits)
  exact {
    size
    least := fun visit member => Nat.le_of_lt (early visit member)
    further := fun position instruction read visits => absurd visits (fresh position instruction read)
    waiting := fun position instruction read visits => absurd visits (fresh position instruction read) }

theorem start (pattern : Pattern) (place : Place) : Explored pattern place [] (pattern.frontier place) := by
  refine of_unvisited Array.size_replicate fun visit member => ?_
  rw [(Array.mem_replicate.mp member).2]
  exact Nat.lt_succ_self _

/-- At a later place nothing was visited yet. -/
theorem later (explored : Explored pattern place pending frontier) {next : Place} (less : next.left < place.left) :
    Explored pattern next [] ⟨frontier.visited, []⟩ :=
  of_unvisited explored.size fun visit member => Nat.lt_of_lt_of_le less (explored.least visit member)

theorem pend (explored : Explored pattern place [] frontier) (pending : List Thread) :
    Explored pattern place pending frontier where
  size := explored.size
  least := explored.least
  further position instruction read visits next leads :=
    .inl ((explored.further position instruction read visits next leads).resolve_right List.not_mem_nil)
  waiting := explored.waiting

/-- A thread whose instruction was visited need not be followed. -/
theorem skip {thread : Thread} (seen : frontier.Visits place.left thread.position) {position : Nat}
    (comes : frontier.Comes place.left (thread :: pending) position) :
    frontier.Comes place.left pending position := by
  rcases comes with visits | about
  · exact .inl visits
  · rw [List.map_cons, List.mem_cons] at about
    rcases about with rfl | about
    · exact .inl seen
    · exact .inr about

theorem tail {thread : Thread} (explored : Explored pattern place (thread :: pending) frontier)
    (seen : frontier.Visits place.left thread.position) : Explored pattern place pending frontier where
  size := explored.size
  least := explored.least
  further position instruction read visits next leads :=
    skip seen (explored.further position instruction read visits next leads)
  waiting := explored.waiting

section Visit

variable {visited : Array Nat} {threads : List Thread} {thread : Thread} {following : List Thread}

/-- A visit replaces a thread by those that follow it. -/
theorem comes_visit {others : List Thread} {position : Nat}
    (comes : Frontier.Comes ⟨visited, threads⟩ place.left (thread :: pending) position) :
    Frontier.Comes ⟨visited.setIfInBounds thread.position place.left, others⟩ place.left (following ++ pending)
      position := by
  rcases comes with visits | about
  · exact .inl ((Frontier.visits_set threads _).mpr (.inr visits))
  · rw [List.map_cons, List.mem_cons] at about
    rcases about with same | about
    · exact .inl ((Frontier.visits_set threads _).mpr (.inl same))
    · exact .inr (by rw [List.map_append]; exact List.mem_append_right _ about)

theorem visit (explored : Explored pattern place (thread :: pending) ⟨visited, threads⟩) {instruction : Instruction}
    (read : pattern.instructions[thread.position]? = some instruction)
    (followed : following.map (·.position) = instruction.successors place.before place.rest.head?) :
    Explored pattern place (following ++ pending)
      ⟨visited.setIfInBounds thread.position place.left,
        if instruction.waits then thread :: threads else threads⟩ where
  size := by simpa using explored.size
  least := by
    intro visit member
    rcases Array.mem_or_eq_of_mem_setIfInBounds member with old | rfl
    · exact explored.least visit old
    · exact Nat.le_refl _
  further := by
    intro position other found visits next leads
    rcases (Frontier.visits_set threads _).mp visits with rfl | old
    · obtain rfl := Option.some.inj (read.symm.trans found)
      exact .inr (by rw [List.map_append, followed]; exact List.mem_append_left _ leads)
    · exact comes_visit (explored.further position other found old next leads)
  waiting := by
    intro position other found visits waits
    rcases (Frontier.visits_set threads _).mp visits with rfl | old
    · obtain rfl := Option.some.inj (read.symm.trans found)
      exact ⟨thread, by simp [waits], rfl⟩
    · obtain ⟨waiter, listed, same⟩ := explored.waiting position other found old waits
      refine ⟨waiter, ?_, same⟩
      dsimp only
      split
      · exact List.mem_cons_of_mem _ listed
      · exact listed

end Visit

end Explored

/-- At an instruction that was not visited yet a thread stays, or threads go on to all its successors. -/
theorem exists_follow_succ {thread : Thread} {visited : Array Nat} {threads : List Thread} {instruction : Instruction}
    (fuel : Nat) (pending : List Thread) (fresh : ¬Frontier.Visits ⟨visited, threads⟩ place.left thread.position)
    (read : pattern.instructions[thread.position]? = some instruction) :
    ∃ following : List Thread,
      following.map (·.position) = instruction.successors place.before place.rest.head? ∧ following.length ≤ 2 ∧
        pattern.follow place (fuel + 1) (thread :: pending) ⟨visited, threads⟩ =
          pattern.follow place fuel (following ++ pending)
            ⟨visited.setIfInBounds thread.position place.left,
              if instruction.waits then thread :: threads else threads⟩ := by
  have unseen : ¬visited.getD thread.position place.left = place.left := fresh
  rw [follow, if_neg unseen]
  cases instruction with
  | accept => exact ⟨[], rfl, Nat.zero_le _, by rw [read]; rfl⟩
  | one set next => exact ⟨[], rfl, Nat.zero_le _, by rw [read]; rfl⟩
  | check condition next =>
    by_cases holds : condition.holds place.before place.rest.head?
    · refine ⟨[{ thread with position := next }], by simp [Instruction.successors, holds], by simp, ?_⟩
      simp only [read, if_pos holds]
      rfl
    · refine ⟨[], by simp [Instruction.successors, holds], by simp, ?_⟩
      simp only [read, if_neg holds]
      rfl
  | mark slot next =>
    exact ⟨[{ thread with position := next, marks := (slot, place) :: thread.marks }], rfl, by simp,
      by rw [read]; rfl⟩
  | split first second =>
    exact ⟨[{ thread with position := first }, { thread with position := second }], rfl, Nat.le_refl _,
      by rw [read]; rfl⟩

/-- Threads are followed to the end: a visit uses up an instruction, and leaves at most two threads for the one that
made it. -/
theorem explored_follow {fuel : Nat} (explored : Explored pattern place pending frontier)
    (enough : 2 * frontier.unvisited place.left + pending.length ≤ fuel) :
    Explored pattern place [] (pattern.follow place fuel pending frontier) ∧
      ∀ position, frontier.Comes place.left pending position →
        (pattern.follow place fuel pending frontier).Visits place.left position := by
  -- A thread that is skipped takes one off the measure; a visit takes two off and adds two at most, less the thread.
  induction fuel generalizing pending frontier with
  | zero =>
    obtain rfl : pending = [] := List.length_eq_zero_iff.mp (by omega)
    exact ⟨explored, fun position comes => comes.resolve_right List.not_mem_nil⟩
  | succ fuel ih =>
    cases pending with
    | nil => exact ⟨explored, fun position comes => comes.resolve_right List.not_mem_nil⟩
    | cons thread pending =>
      rw [List.length_cons] at enough
      obtain ⟨visited, threads⟩ := frontier
      by_cases seen : Frontier.Visits ⟨visited, threads⟩ place.left thread.position
      · have skipped : pattern.follow place (fuel + 1) (thread :: pending) ⟨visited, threads⟩ =
            pattern.follow place fuel pending ⟨visited, threads⟩ := by
          rw [follow]
          exact if_pos seen
        rw [skipped]
        obtain ⟨reached, visits⟩ := ih (explored.tail seen) (by omega)
        exact ⟨reached, fun position comes => visits position (Explored.skip seen comes)⟩
      · have inside : thread.position < pattern.instructions.size :=
          explored.size ▸ Frontier.lt_size_of_not_visits seen
        have read : pattern.instructions[thread.position]? = some pattern.instructions[thread.position] :=
          Array.getElem?_eq_getElem inside
        obtain ⟨following, followed, few, step⟩ := exists_follow_succ fuel pending seen read
        have less := Frontier.unvisited_set
          (if pattern.instructions[thread.position].waits then thread :: threads else threads) seen
        rw [step]
        obtain ⟨reached, visits⟩ := ih (explored.visit read followed) (by rw [List.length_append]; omega)
        exact ⟨reached, fun position comes => visits position (Explored.comes_visit comes)⟩

/-- A thread that enters a frontier visits its instruction, and what was visited stays so. -/
theorem explored_enter (explored : Explored pattern place [] frontier) (thread : Thread) :
    Explored pattern place [] (pattern.enter place frontier thread) ∧
      (∀ position, frontier.Visits place.left position →
        (pattern.enter place frontier thread).Visits place.left position) ∧
      (pattern.enter place frontier thread).Visits place.left thread.position := by
  have most : frontier.unvisited place.left ≤ pattern.instructions.size :=
    explored.size ▸ Array.countP_le_size
  obtain ⟨reached, visits⟩ := explored_follow (explored.pend [thread])
    (by rw [List.length_singleton]; omega : _ ≤ 2 * pattern.instructions.size + 1)
  exact ⟨reached, fun position old => visits position (.inl old), visits _ (.inr (List.mem_singleton_self _))⟩

/-- A frontier behind a character, with a further thread carried over it. -/
def carry (pattern : Pattern) (c : Char) (place : Place) (frontier : Frontier) (thread : Thread) : Frontier :=
  match pattern.instructions[thread.position]? with
  | some (.one set next) =>
    if set.contains c then pattern.enter place frontier { thread with position := next } else frontier
  | _ => frontier

theorem advance_eq (c : Char) (threads : List Thread) (visited : Array Nat) :
    pattern.advance c place threads visited = threads.foldl (pattern.carry c place) { visited } := rfl

/-- A thread that waits for a character is carried over it. -/
theorem explored_carry (explored : Explored pattern place [] frontier) (c : Char) (thread : Thread) :
    Explored pattern place [] (pattern.carry c place frontier thread) ∧
      (∀ position, frontier.Visits place.left position →
        (pattern.carry c place frontier thread).Visits place.left position) ∧
      ∀ set next, pattern.instructions[thread.position]? = some (.one set next) → set.contains c = true →
        (pattern.carry c place frontier thread).Visits place.left next := by
  unfold carry
  split
  · next set next read =>
    split
    · obtain ⟨entered, old, new⟩ := explored_enter explored { thread with position := next }
      refine ⟨entered, old, fun other further found _ => ?_⟩
      obtain ⟨rfl, rfl⟩ := Instruction.one.inj (Option.some.inj (read.symm.trans found))
      exact new
    · next outside =>
      refine ⟨explored, fun _ visits => visits, fun other further found member => ?_⟩
      obtain ⟨rfl, rfl⟩ := Instruction.one.inj (Option.some.inj (read.symm.trans found))
      exact absurd member outside
  · next other => exact ⟨explored, fun _ visits => visits, fun set next found => absurd found (other set next)⟩

theorem explored_foldl_carry (explored : Explored pattern place [] frontier) (c : Char) (threads : List Thread) :
    Explored pattern place [] (threads.foldl (pattern.carry c place) frontier) ∧
      (∀ position, frontier.Visits place.left position →
        (threads.foldl (pattern.carry c place) frontier).Visits place.left position) ∧
      ∀ thread ∈ threads, ∀ set next, pattern.instructions[thread.position]? = some (.one set next) →
        set.contains c = true → (threads.foldl (pattern.carry c place) frontier).Visits place.left next := by
  induction threads generalizing frontier with
  | nil => exact ⟨explored, fun _ visits => visits, nofun⟩
  | cons thread threads ih =>
    obtain ⟨taken, old, new⟩ := explored_carry explored c thread
    obtain ⟨reached, kept, each⟩ := ih taken
    refine ⟨reached, fun position visits => kept position (old position visits), List.forall_mem_cons.mpr ⟨?_, each⟩⟩
    exact fun set next read member => kept next (new set next read member)

/-- Every thread that waits for a character is carried over it. -/
theorem explored_advance {visited : Array Nat} (explored : Explored pattern place [] ⟨visited, []⟩) (c : Char)
    (threads : List Thread) :
    Explored pattern place [] (pattern.advance c place threads visited) ∧
      ∀ thread ∈ threads, ∀ set next, pattern.instructions[thread.position]? = some (.one set next) →
        set.contains c = true → (pattern.advance c place threads visited).Visits place.left next := by
  obtain ⟨reached, _, each⟩ := explored_foldl_carry explored c threads
  rw [advance_eq]
  exact ⟨reached, each⟩

/-- A thread that accepts is a match; without one all threads go on. -/
theorem settle_eq_none {threads : List Thread} (unfound : (pattern.settle place threads).2 = none) :
    (pattern.settle place threads).1 = threads ∧
      ∀ thread ∈ threads, pattern.instructions[thread.position]? ≠ some .accept := by
  induction threads with
  | nil => exact ⟨rfl, nofun⟩
  | cons thread threads ih =>
    rw [settle] at unfound ⊢
    split at unfound
    · cases unfound
    · next other =>
      obtain ⟨live, each⟩ := ih unfound
      exact ⟨congrArg (thread :: ·) live, List.forall_mem_cons.mpr ⟨other, each⟩⟩

/-- On a way from a visited instruction there is a thread that accepts, or one that waits for the next character. -/
theorem exists_waiting (explored : Explored pattern place [] frontier) {position : Nat}
    (visits : frontier.Visits place.left position) (accepts : pattern.Accepts place.before place.rest position) :
    ∃ thread ∈ frontier.threads, pattern.instructions[thread.position]? = some .accept ∨
      ∃ set next c rest, pattern.instructions[thread.position]? = some (.one set next) ∧ place.rest = c :: rest ∧
        set.contains c = true ∧ pattern.Accepts (some c) rest next := by
  obtain ⟨before, rest, left⟩ := place
  dsimp only at accepts
  induction accepts with
  | accept read =>
    obtain ⟨thread, listed, rfl⟩ := explored.waiting _ _ read visits rfl
    exact ⟨thread, listed, .inl read⟩
  | @take before c rest position set next read member further _ =>
    obtain ⟨thread, listed, rfl⟩ := explored.waiting _ _ read visits rfl
    exact ⟨thread, listed, .inr ⟨set, next, c, rest, read, rfl, member, further⟩⟩
  | go read leads _ ih =>
    exact ih explored ((explored.further _ _ read visits _ leads).resolve_right List.not_mem_nil)

theorem isSome_searchFrom_of_best {best : Option Trail} (found : best.isSome) (before : Option Char)
    (frontier : Frontier) (rest : List Char) (left : Nat) :
    (pattern.searchFrom before frontier best rest left).isSome := by
  have kept (later : Option Trail) {best : Option Trail} (found : best.isSome) : (later.or best).isSome := by
    rw [Option.isSome_or, found, Bool.or_true]
  induction rest generalizing before frontier best left with
  | nil => exact kept _ found
  | cons c rest ih =>
    rw [searchFrom_further]
    dsimp only
    split
    · exact kept _ found
    · exact ih (kept _ found) _ _ _

/-- Whether a way from a visited instruction, or one that begins here or further on, comes to the end of a match. -/
def Ahead (pattern : Pattern) (before : Option Char) (rest : List Char) (frontier : Frontier) : Prop :=
  (∃ position, frontier.Visits rest.length position ∧ pattern.Accepts before rest position) ∨
    ∃ skipped further, rest = skipped ++ further ∧ pattern.Accepts (skipped.getLast?.or before) further pattern.start

section Step

variable {before : Option Char} {rest : List Char}
  (explored : Explored pattern ⟨before, rest, rest.length⟩ [] frontier) (ahead : pattern.Ahead before rest frontier)
include explored

/-- While nothing is found a new thread begins, so the frontier goes on from the start as well. -/
theorem explored_begun :
    Explored pattern ⟨before, rest, rest.length⟩ [] (pattern.begun ⟨before, rest, rest.length⟩ frontier none) ∧
      (∀ position, frontier.Visits rest.length position →
        (pattern.begun ⟨before, rest, rest.length⟩ frontier none).Visits rest.length position) ∧
      (pattern.begun ⟨before, rest, rest.length⟩ frontier none).Visits rest.length pattern.start :=
  explored_enter explored { start := ⟨before, rest, rest.length⟩, position := pattern.start }

include ahead

/-- What is ahead goes through a visited instruction, unless it begins further on. -/
theorem ahead_begun :
    (∃ position, (pattern.begun ⟨before, rest, rest.length⟩ frontier none).Visits rest.length position ∧
      pattern.Accepts before rest position) ∨
    ∃ c skipped further, rest = c :: (skipped ++ further) ∧
      pattern.Accepts (skipped.getLast?.or (some c)) further pattern.start := by
  obtain ⟨_, old, new⟩ := explored_begun explored
  rcases ahead with ⟨position, visits, accepts⟩ | ⟨skipped, further, split, accepts⟩
  · exact .inl ⟨position, old position visits, accepts⟩
  · cases skipped with
    | nil =>
      rw [List.nil_append] at split
      subst split
      exact .inl ⟨pattern.start, new, accepts⟩
    | cons c skipped =>
      refine .inr ⟨c, skipped, further, split, ?_⟩
      rw [List.getLast?_cons] at accepts
      cases last : skipped.getLast? <;> simpa [last] using accepts

/-- Where nothing is found something is ahead behind the next character. -/
theorem ahead_advance (unfound : (pattern.settled ⟨before, rest, rest.length⟩ frontier none).2 = none) :
    ∃ c later, rest = c :: later ∧
      let reached := pattern.advance c ⟨some c, later, later.length⟩
        (pattern.settled ⟨before, rest, rest.length⟩ frontier none).1
        (pattern.begun ⟨before, rest, rest.length⟩ frontier none).visited
      Explored pattern ⟨some c, later, later.length⟩ [] reached ∧ pattern.Ahead (some c) later reached := by
  obtain ⟨begun, _, _⟩ := explored_begun explored
  -- No thread accepts, so all of them go on, and one of them waits for the character that comes next on the way.
  obtain ⟨live, pass⟩ := settle_eq_none unfound
  rcases ahead_begun explored ahead with ⟨position, visits, accepts⟩ | ⟨c, skipped, further, rfl, accepts⟩
  · obtain ⟨thread, listed, accepting | ⟨set, next, c, later, read, rfl, member, further⟩⟩ :=
      exists_waiting begun visits accepts
    · exact absurd accepting (pass thread (List.mem_reverse.mpr listed))
    · obtain ⟨reached, each⟩ := explored_advance (begun.later (Nat.lt_succ_self later.length) :
        Explored pattern ⟨some c, later, later.length⟩ [] _) c (pattern.settled _ frontier none).1
      refine ⟨c, later, rfl, reached, .inl ⟨next, each thread ?_ set next read member, further⟩⟩
      rw [settled, live]
      exact List.mem_reverse.mpr listed
  · obtain ⟨reached, _⟩ := explored_advance (begun.later (Nat.lt_succ_self (skipped ++ further).length) :
      Explored pattern ⟨some c, skipped ++ further, (skipped ++ further).length⟩ [] _) c
      (pattern.settled _ frontier none).1
    exact ⟨c, skipped ++ further, rfl, reached, .inr ⟨skipped, further, rfl, accepts⟩⟩

end Step

/-- A search finds what is ahead of it. -/
theorem isSome_searchFrom_of_ahead {before : Option Char} {rest : List Char}
    (explored : Explored pattern ⟨before, rest, rest.length⟩ [] frontier)
    (ahead : pattern.Ahead before rest frontier) :
    (pattern.searchFrom before frontier none rest rest.length).isSome := by
  induction rest generalizing before frontier with
  | nil =>
    rw [searchFrom_nil, Option.or_none]
    refine Option.isSome_iff_ne_none.mpr fun lost => ?_
    obtain ⟨c, later, further, _⟩ := ahead_advance explored ahead lost
    cases further
  | cons c rest ih =>
    rw [searchFrom_further]
    dsimp only
    cases found : (pattern.settled ⟨before, c :: rest, (c :: rest).length⟩ frontier none).2 with
    | some hit =>
      rw [Option.some_or]
      split
      · rfl
      · exact isSome_searchFrom_of_best rfl _ _ _ _
    | none =>
      obtain ⟨_, _, further, reached, later⟩ := ahead_advance explored ahead found
      obtain ⟨rfl, rfl⟩ := List.cons.inj further
      rw [Option.none_or, Option.isSome_none, Bool.and_false, if_neg Bool.false_ne_true]
      exact ih reached later

/-- A pattern matches every text in which some way through its instructions, begun anywhere, comes to an end. -/
theorem matchesText_of_accepts {text : String} {skipped further : List Char}
    (split : text.toList = skipped ++ further)
    (accepts : pattern.Accepts skipped.getLast? further pattern.start) : pattern.matchesText text = true := by
  refine isSome_searchFrom_of_ahead (.start pattern (.start text.toList)) (.inr ⟨skipped, further, split, ?_⟩)
  change pattern.Accepts (skipped.getLast?.or none) further pattern.start
  rwa [Option.or_none]

/-- Whether a way from an instruction leads over a word to the end of a match, without a look at boundaries. -/
def spells (pattern : Pattern) : Nat → List Char → Nat → Bool
  | 0, _, _ => false
  | fuel + 1, word, position =>
    match pattern.instructions[position]?, word with
    | some .accept, _ => true
    | some (.one set next), c :: rest => set.contains c && pattern.spells fuel rest next
    | some (.mark _ next), word => pattern.spells fuel word next
    | some (.split first second), word => pattern.spells fuel word first || pattern.spells fuel word second
    | _, _ => false

theorem accepts_of_spells {fuel : Nat} {word : List Char} {position : Nat}
    (spelled : pattern.spells fuel word position = true) (before : Option Char) (later : List Char) :
    pattern.Accepts before (word ++ later) position := by
  induction fuel generalizing word position before with
  | zero => cases spelled
  | succ fuel ih =>
    unfold spells at spelled
    split at spelled
    · next read => exact .accept read
    · next set next c rest read =>
      obtain ⟨member, further⟩ := Bool.and_eq_true_iff.mp spelled
      exact .take read member (ih further _)
    · next slot next read => exact .go read (List.mem_singleton_self _) (ih spelled _)
    · next first second read =>
      rcases Bool.or_eq_true_iff.mp spelled with left | right
      · exact .go read List.mem_cons_self (ih left _)
      · exact .go read (List.mem_cons_of_mem _ (List.mem_singleton_self _)) (ih right _)
    · cases spelled

/-- A pattern that spells a word matches every text that contains it. -/
theorem matchesText_of_spells {fuel : Nat} {word : List Char} (spelled : pattern.spells fuel word pattern.start = true)
    {text : String} (contained : word <:+: text.toList) : pattern.matchesText text = true := by
  obtain ⟨skipped, later, split⟩ := contained
  rw [List.append_assoc] at split
  exact matchesText_of_accepts split.symm (accepts_of_spells spelled _ later)

end Pattern

end WorkflowSynthesis
