import WorkflowSynthesis.Pattern.Basic

/-!
How patterns match. Threads go through a text side by side, in order of preference, and no instruction
is visited twice at one place: the thread that comes second could do nothing that the first one does not
do before it. The match is what the most preferred of the leftmost threads finds.
-/

namespace WorkflowSynthesis

/-- A place in a text: the character before it, the text after it, and the length of the latter. -/
structure Place where
  before : Option Char
  rest : List Char
  left : Nat

def Place.start (text : List Char) : Place := { before := none, rest := text, left := text.length }

def Place.next? (place : Place) : Option Place :=
  match place.rest with
  | [] => none
  | c :: rest => some { before := some c, rest, left := place.left - 1 }

/-- Where a thread began, the instruction that it has come to, and its marks, the latest first. -/
structure Thread where
  start : Place
  position : Nat
  marks : List (Nat × Place) := []

structure Trail where
  start : Place
  finish : Place
  marks : List (Nat × Place)

namespace Trail

def between (first last : Place) : List Char := first.rest.take (first.left - last.left)

def text (found : Trail) : String := String.ofList (between found.start found.finish)

def isEmpty (found : Trail) : Bool := found.start.left == found.finish.left

def group? (found : Trail) (index : Nat) : Option String := do
  let first ← found.marks.lookup (2 * index)
  let last ← found.marks.lookup (2 * index + 1)
  return String.ofList (between first last)

end Trail

/-- The threads that wait at a place, the least preferred first. Every instruction that was visited has
the number of characters left in the text at that time. -/
structure Frontier where
  visited : Array Nat
  threads : List Thread := []

namespace Pattern

def frontier (pattern : Pattern) (place : Place) : Frontier :=
  { visited := Array.replicate pattern.instructions.size (place.left + 1) }

def follow (pattern : Pattern) (place : Place) : Nat → List Thread → Frontier → Frontier
  | 0, _, frontier => frontier
  | _, [], frontier => frontier
  | fuel + 1, thread :: pending, ⟨visited, threads⟩ =>
    if visited.getD thread.position place.left = place.left then
      pattern.follow place fuel pending ⟨visited, threads⟩
    else
      let visited := visited.setIfInBounds thread.position place.left
      match pattern.instructions[thread.position]? with
      | some (.check condition next) =>
        let pending :=
          if condition.holds place.before place.rest.head? then { thread with position := next } :: pending
          else pending
        pattern.follow place fuel pending ⟨visited, threads⟩
      | some (.mark slot next) =>
        let thread := { thread with position := next, marks := (slot, place) :: thread.marks }
        pattern.follow place fuel (thread :: pending) ⟨visited, threads⟩
      | some (.split first second) =>
        pattern.follow place fuel ({ thread with position := first } :: { thread with position := second } :: pending)
          ⟨visited, threads⟩
      | _ => pattern.follow place fuel pending ⟨visited, thread :: threads⟩

/-- Adds a thread to a frontier. It visits every instruction at most once, and a visit leaves at most two
threads to follow. -/
def enter (pattern : Pattern) (place : Place) (frontier : Frontier) (thread : Thread) : Frontier :=
  pattern.follow place (2 * pattern.instructions.size + 1) [thread] frontier

def settle (pattern : Pattern) (place : Place) : List Thread → List Thread × Option Trail
  | [] => ([], none)
  | thread :: others =>
    match pattern.instructions[thread.position]? with
    | some .accept => ([], some { start := thread.start, finish := place, marks := thread.marks })
    | _ =>
      let (live, found) := pattern.settle place others
      (thread :: live, found)

def advance (pattern : Pattern) (c : Char) (place : Place) (threads : List Thread) (visited : Array Nat) :
    Frontier :=
  threads.foldl (fun (frontier : Frontier) (thread : Thread) =>
    match pattern.instructions[thread.position]? with
    | some (.one set next) =>
      if set.contains c then pattern.enter place frontier { thread with position := next } else frontier
    | _ => frontier) { visited }

/-- Goes on with a search at a place that threads have come to. While nothing is found a new thread
begins at every place; what is found last was preferred to what was found before. -/
def searchFrom (pattern : Pattern) (before : Option Char) (frontier : Frontier) (best : Option Trail) :
    List Char → Nat → Option Trail
  | [], left =>
    let place : Place := { before, rest := [], left }
    let frontier :=
      if best.isSome then frontier else pattern.enter place frontier { start := place, position := pattern.start }
    (pattern.settle place frontier.threads.reverse).2.or best
  | c :: rest, left =>
    let place : Place := { before, rest := c :: rest, left }
    let frontier :=
      if best.isSome then frontier else pattern.enter place frontier { start := place, position := pattern.start }
    let (live, found) := pattern.settle place frontier.threads.reverse
    let best := found.or best
    if live.isEmpty && best.isSome then best
    else
      let next : Place := { before := some c, rest, left := left - 1 }
      pattern.searchFrom (some c) (pattern.advance c next live frontier.visited) best rest (left - 1)

def search (pattern : Pattern) (place : Place) : Option Trail :=
  pattern.searchFrom place.before (pattern.frontier place) none place.rest place.left

def matchesText (pattern : Pattern) (text : String) : Bool :=
  (pattern.search (.start text.toList)).isSome

/-- The next match from a place. An empty match where the last match ended is passed over. -/
def nextMatch (pattern : Pattern) (place : Place) (lastEnd : Option Nat) : Option Trail := do
  let found ← pattern.search place
  if found.isEmpty && lastEnd == some found.finish.left then pattern.search (← place.next?)
  else return found

def matchesFrom (pattern : Pattern) : Nat → Place → Option Nat → List Trail
  | 0, _, _ => []
  | fuel + 1, place, lastEnd =>
    match pattern.nextMatch place lastEnd with
    | none => []
    | some found => found :: pattern.matchesFrom fuel found.finish (some found.finish.left)

/-- All matches in a text. Each one but the first moves the end forward, which bounds their number. -/
def allMatches (pattern : Pattern) (text : String) : List Trail :=
  let start := Place.start text.toList
  pattern.matchesFrom (start.left + 1) start none

end Pattern

end WorkflowSynthesis
