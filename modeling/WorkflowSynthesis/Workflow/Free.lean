/-! Finding what is not taken yet: numbered names, and identifiers. -/

namespace WorkflowSynthesis.Free

/-- The first free number from `start` on, if one is among the next `attempts`; else the number after
those. -/
def least (free : Nat → Bool) : Nat → Nat → Nat
  | 0, start => start
  | attempts + 1, start => if free start then start else least free attempts (start + 1)

def numbered (text separator : String) (number : Nat) : String := text ++ separator ++ toString number

/-- The text with the least number from two on that makes it free. Among as many attempts as there are
taken texts one succeeds. -/
def firstNumbered (taken : List String) (text separator : String) : String :=
  numbered text separator
    (least (fun number => !taken.contains (numbered text separator number)) taken.length 2)

def name (taken : List String) (base : String) : String :=
  if taken.contains base then firstNumbered taken base " " else base

/-- How many identifiers are drawn before the last one gets a number instead. -/
def maximumDraws : Nat := 1024

def identifier (taken : List String) (identifiers : Nat → String) : String × Nat :=
  match (List.range maximumDraws).find? fun index => !taken.contains (identifiers index) with
  | some index => (identifiers index, index + 1)
  | none => (firstNumbered taken (identifiers (maximumDraws - 1)) "-", maximumDraws)

end WorkflowSynthesis.Free
