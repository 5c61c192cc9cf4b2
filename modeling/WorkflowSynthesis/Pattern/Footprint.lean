import Std.Data.HashMap
import WorkflowSynthesis.Pattern.Expression
import WorkflowSynthesis.Text.ByteRanges

/-!
The memory that an expression takes. It is searched for by two automata over bytes, of which one reads
forward and the other backward, and neither may grow beyond a limit.
-/

namespace WorkflowSynthesis

/-- What has been built of an automaton: its states, and the bytes that they take besides their own
size. The number of states is also the name of the next one. -/
structure Footprint where
  states : Nat := 0
  extra : Nat := 0

namespace Footprint

def bytes (footprint : Footprint) : Nat := 32 * footprint.states + footprint.extra

def limit : Nat := 0xA00000

def checked (footprint : Footprint) : Option Footprint := if footprint.bytes ≤ limit then some footprint else none

def grow (footprint : Footprint) (states links : Nat) : Option Footprint :=
  { states := footprint.states + states, extra := footprint.extra + 4 * links : Footprint }.checked

def times (build : Footprint → Option Footprint) : Nat → Footprint → Option Footprint
  | 0, footprint => some footprint
  | count + 1, footprint =>
    match build footprint with
    | none => none
    | some footprint => times build count footprint

abbrev Transitions := List (Nat × Nat × Nat)

/-- An automaton while a set is built into it. States that were built for the set are remembered by their
transitions, as long as no other state takes the same slot of the memory. -/
structure Sharing where
  footprint : Footprint
  memory : Std.HashMap Nat (Transitions × Nat) := ∅

namespace Sharing

def slot (slots : Nat) (transitions : Transitions) : Nat :=
  let mix (hash : UInt64) (value : Nat) : UInt64 := (hash ^^^ UInt64.ofNat value) * 0x100000001B3
  let hash := transitions.foldl (fun hash (first, last, next) => mix (mix (mix hash first) last) next)
    0xCBF29CE484222325
  hash.toNat % slots

/-- The state with the given transitions: the one in its slot, if it is the same, or else a new one that
takes the slot. -/
def state (sharing : Sharing) (slots : Nat) (key transitions : Transitions) (extra : Nat) : Nat × Sharing :=
  let slot := slot slots key
  let build : Unit → Nat × Sharing := fun _ =>
    let name := sharing.footprint.states
    let footprint := { states := name + 1, extra := sharing.footprint.extra + extra }
    (name, { footprint, memory := sharing.memory.insert slot (transitions, name) })
  match sharing.memory[slot]? with
  | some (known, name) => if known = transitions then (name, sharing) else build ()
  | none => build ()

def tree (target : Nat) : Nat → List (List (Nat × Nat)) → Sharing → Nat × Sharing
  | 0, _, sharing => (target, sharing)
  | depth + 1, sequences, sharing =>
    let (transitions, sharing) := (sequences.splitBy fun left right => left.head? == right.head?).foldl
      (fun (transitions, sharing) group =>
        match group with
        | [(first, last)] :: _ => ((first, last, target) :: transitions, sharing)
        | ((first, last) :: _) :: _ =>
          let (next, sharing) := tree target depth (group.map List.tail) sharing
          ((first, last, next) :: transitions, sharing)
        | _ => (transitions, sharing)) ([], sharing)
    let transitions := transitions.reverse
    sharing.state 10000 transitions transitions (8 * transitions.length)

def chain (target : Nat) (sequence : List (Nat × Nat)) (sharing : Sharing) : Nat × Sharing :=
  sequence.foldl (fun (next, sharing) (first, last) =>
    sharing.state 1000 [(next, first, last)] [(first, last, next)] 0) (target, sharing)

end Sharing

def ofSet (backward : Bool) (set : CharSet) (footprint : Footprint) : Option Footprint :=
  if set.isAscii then footprint.grow 2 (2 * set.ranges.length)
  else
    let sequences := Text.allByteRanges set.ranges
    if backward then
      let target := footprint.states + 1
      let footprint := { states := footprint.states + 2, extra := footprint.extra + 4 * sequences.length }
      (sequences.foldl (fun sharing sequence => (Sharing.chain target sequence sharing).2)
        { footprint }).footprint.checked
    else
      let target := footprint.states
      let footprint := { footprint with states := target + 1 }
      (Sharing.tree target 4 sequences { footprint }).2.footprint.checked

/-- The states and links of the tree that texts form by their common beginnings. At every end of a text
but the last, what comes later begins a new branching. -/
def tree : Nat → List (List Nat) → Nat × Nat
  | 0, _ => (0, 0)
  | depth + 1, texts =>
    let texts := match texts.span List.isEmpty with
      | (end' :: _, texts) => end' :: texts
      | ([], texts) => texts
    let branchings := texts.splitBy fun left right => left.isEmpty == right.isEmpty
    let ends := (texts.filter List.isEmpty).length
    branchings.foldl (fun (states, links) branching =>
      let letters := (branching.filterMap List.head?).eraseDups
      let (states, links) := letters.foldl (fun (states, links) letter =>
        let tails := (branching.filter (·.head? = some letter)).map List.tail
        if tails.all List.isEmpty then (states, links)
        else
          let (more, others) := tree depth tails
          (states + more, links + others)) (states, links)
      match letters with
      | [] => (states, links)
      | [_] => (states + 1, links + 1)
      | _ => (states + 1, links + 1 + 2 * letters.length)) (1, ends)

def ofTexts (backward : Bool) (texts : List (List Nat)) (footprint : Footprint) : Option Footprint :=
  let texts := if backward then texts.map List.reverse else texts
  let (states, links) := tree ((texts.map List.length).foldl max 0 + 1) texts
  footprint.grow (states + 1) links

end Footprint

namespace Expression

def textBytes : Expression → List Nat
  | .literal chars => chars.flatMap fun c => Text.utf8 c.toNat
  | _ => []

def isLiteral : Expression → Bool
  | .literal _ => true
  | _ => false

/-- Ties the alternative that is built to the `before` ones in front of it. Two states hold a choice
together, and come after its second alternative. -/
def tie (before : Nat) (footprint : Footprint) : Option Footprint :=
  match before with
  | 0 => some footprint
  | 1 => footprint.grow 2 2
  | _ => footprint.grow 0 1

def build (backward : Bool) : Expression → Nat → Footprint → Option Footprint
  | .empty, before, footprint | .boundary _, before, footprint => do
    let footprint ← footprint.grow 1 0
    tie before footprint
  | .literal chars, before, footprint => do
    let footprint ← footprint.grow (textBytes (.literal chars)).length 0
    tie before footprint
  | .one set, before, footprint => do
    let footprint ← footprint.ofSet backward set
    tie before footprint
  | .group _ body, before, footprint => do
    let footprint ← if backward then some footprint else footprint.grow 1 0
    let footprint ← body.build backward 0 footprint
    let footprint ← if backward then some footprint else footprint.grow 1 0
    tie before footprint
  | .sequence first second, before, footprint => do
    let footprint ←
      if backward then do first.build backward 0 (← second.build backward 0 footprint)
      else do second.build backward 0 (← first.build backward 0 footprint)
    tie before footprint
  | .choice first second, 0, footprint => do
    if isLiteral first && second.branches.all isLiteral then
      footprint.ofTexts backward ((first :: second.branches).map textBytes)
    else
      let footprint ← first.build backward 0 footprint
      second.build backward 1 footprint
  | .choice first second, before + 1, footprint => do
    let footprint ← first.build backward (before + 1) footprint
    second.build backward (before + 2) footprint
  | .repetition least most _ body, before, footprint => do
    let required ←
      if most.isNone && least = 0 then some footprint
      else Footprint.times (body.build backward 0) least footprint
    let footprint ← match most with
      | none =>
        if least ≠ 0 then required.grow 1 2
        else if body.consumes then do body.build backward 0 (← required.grow 1 2)
        else do (← body.build backward 0 required).grow 3 4
      | some most =>
        if most = least then some required
        else if least = 0 ∧ most = 1 then do (← body.build backward 0 (← required.grow 1 2)).grow 1 0
        else do
          let footprint ← required.grow (if least = 0 then 2 else 1) 0
          Footprint.times (fun footprint => do body.build backward 0 (← footprint.grow 1 2)) (most - least)
            footprint
    tie before footprint

/-- Whether every match stands at the end of the text at which a search begins: at its start, or at its
finish if the search goes backward. -/
def isAnchored (backward : Bool) : Expression → Bool
  | .boundary condition => condition = if backward then .textEnd else .textStart
  | .group _ body => body.isAnchored backward
  | .sequence first second =>
    if backward then second.isAnchored backward || (second.isZeroWidth && first.isAnchored backward)
    else first.isAnchored backward || (first.isZeroWidth && second.isAnchored backward)
  | .choice first second => first.isAnchored backward && second.isAnchored backward
  | .repetition least _ _ body => decide (0 < least) && body.isAnchored backward
  | _ => false

/-- The automaton of an expression. Without an anchor it begins with states that pass over any text; the
one that reads forward notes where a match begins and ends. -/
def footprint (backward : Bool) (expression : Expression) : Option Footprint := do
  let beginning ←
    if expression.isAnchored backward then Footprint.grow {} 1 0 else Footprint.grow {} 3 4
  if backward then
    let footprint ← expression.build backward 0 beginning
    footprint.grow 1 0
  else
    let footprint ← expression.build backward 0 (← beginning.grow 1 0)
    footprint.grow 2 0

/-- Bytes that are enough for an expression if nothing is shared. A range of characters has at most
sixteen sequences of four byte ranges. -/
def bytesWithoutSharing : Expression → Nat
  | .empty | .boundary _ => 100
  | .literal chars => 500 * chars.length
  | .one set => 2600 * set.ranges.length + 200
  | .group _ body => body.bytesWithoutSharing + 100
  | .sequence first second | .choice first second => first.bytesWithoutSharing + second.bytesWithoutSharing + 100
  | .repetition least most _ body => (max least (most.getD (least + 1))) * (body.bytesWithoutSharing + 100) + 200

def fits (expression : Expression) : Bool :=
  decide (expression.bytesWithoutSharing + 500 ≤ Footprint.limit) ||
    ((expression.footprint false).isSome && (expression.footprint true).isSome)

end Expression

end WorkflowSynthesis
