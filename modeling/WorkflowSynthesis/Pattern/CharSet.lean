import WorkflowSynthesis.Text.CaseFolding

/-! Sets of characters. -/

namespace WorkflowSynthesis

/-- A set of characters by its code points: ascending ranges without surrogates, between which there are
gaps. -/
structure CharSet where
  ranges : List (Nat × Nat)
  deriving DecidableEq

namespace CharSet

def empty : CharSet := ⟨[]⟩

def range (first last : Nat) : CharSet := ⟨Text.scalars first last⟩

def char (c : Char) : CharSet := range c.toNat c.toNat

def ofRanges (ranges : List (Nat × Nat)) : CharSet := ⟨Text.unionOf ranges⟩

def contains (set : CharSet) (c : Char) : Bool := Text.covers set.ranges c.toNat

def single? (set : CharSet) : Option Char :=
  match set.ranges with
  | [(first, last)] => if first = last then some (Char.ofNat first) else none
  | _ => none

def isAscii (set : CharSet) : Bool := set.ranges.all fun range => decide (range.2 < 0x80)

def union (left right : CharSet) : CharSet := .ofRanges (left.ranges ++ right.ranges)

def complement (set : CharSet) : CharSet := ⟨Text.gaps 0 set.ranges⟩

def intersection (left right : CharSet) : CharSet := (left.complement.union right.complement).complement

def difference (left right : CharSet) : CharSet := (left.complement.union right).complement

def symmetricDifference (left right : CharSet) : CharSet := (left.difference right).union (right.difference left)

def folded (set : CharSet) : CharSet := ⟨Text.foldClosure set.ranges⟩

end CharSet

end WorkflowSynthesis
