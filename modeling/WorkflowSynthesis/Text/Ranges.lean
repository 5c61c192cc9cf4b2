/-!
Character properties given by tables: disjoint ranges of code points, runs of evenly spaced code
points, and runs that a mapping moves by one offset.
-/

namespace WorkflowSynthesis.Text

/-- Whether a code point lies in one of the ranges. The ranges ascend, so the search stops at the
first one that begins above the code point. -/
def covers : List (Nat × Nat) → Nat → Bool
  | [], _ => false
  | (first, last) :: rest, code =>
    if code < first then false else decide (code ≤ last) || covers rest code

structure Run where
  first : Nat
  last : Nat
  step : Nat

def Run.contains (run : Run) (code : Nat) : Bool :=
  decide (run.first ≤ code) && decide (code ≤ run.last) && (code - run.first) % run.step == 0

structure Shift extends Run where
  offset : Int

/-- The image of a code point under the first shift that holds it, or the code point itself. The shifts
ascend, so the search stops at the first one that begins above the code point. -/
def shifted : List Shift → Nat → Nat
  | [], code => code
  | shift :: rest, code =>
    if code < shift.first then code
    else if shift.contains code then (code + shift.offset).toNat
    else shifted rest code

def Run.within (run : Run) (low high : Nat) : List (Nat × Nat) :=
  let last := min run.last high
  if last < max run.first low then []
  else if run.step = 1 then [(max run.first low, last)]
  else
    let skipped := (max run.first low - run.first + run.step - 1) / run.step
    let first := run.first + skipped * run.step
    if last < first then []
    else (List.range ((last - first) / run.step + 1)).map fun index =>
      (first + index * run.step, first + index * run.step)

def Shift.images (shift : Shift) (low high : Nat) : List (Nat × Nat) :=
  (shift.within low high).map fun (first, last) => ((first + shift.offset).toNat, (last + shift.offset).toNat)

def Shift.origins (shift : Shift) (low high : Nat) : List (Nat × Nat) :=
  shift.within (low - shift.offset).toNat (high - shift.offset).toNat

def joinTouching : List (Nat × Nat) → List (Nat × Nat)
  | (first, last) :: (low, high) :: rest =>
    if low ≤ last + 1 then joinTouching ((first, max last high) :: rest)
    else (first, last) :: joinTouching ((low, high) :: rest)
  | ranges => ranges
  termination_by ranges => ranges.length

def insertRange (range : Nat × Nat) : List (Nat × Nat) → List (Nat × Nat)
  | [] => [range]
  | other :: rest => if range.1 ≤ other.1 then range :: other :: rest else other :: insertRange range rest

def unionOf (ranges : List (Nat × Nat)) : List (Nat × Nat) := joinTouching (ranges.foldr insertRange [])

def scalars (first last : Nat) : List (Nat × Nat) :=
  [(first, min last 0xD7FF), (max first 0xE000, last)].filter fun (low, high) => decide (low ≤ high)

def gaps (next : Nat) : List (Nat × Nat) → List (Nat × Nat)
  | [] => scalars next 0x10FFFF
  | (low, high) :: rest => (if next < low then scalars next (low - 1) else []) ++ gaps (high + 1) rest

end WorkflowSynthesis.Text
