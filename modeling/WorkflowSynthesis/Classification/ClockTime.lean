import WorkflowSynthesis.Pattern.Engine
import WorkflowSynthesis.Text.Case

/-! Clock times in a description. -/

namespace WorkflowSynthesis.ClockTime

def natural? (text : String) : Option Nat :=
  let digits := match text.toList with
    | '+' :: digits => digits
    | digits => digits
  if digits.isEmpty || !digits.all Char.isDigit then none
  else
    let value := digits.foldl (fun value c => value * 10 + (c.toNat - '0'.toNat)) 0
    if value < 0x100000000 then some value else none

/-- The hour on a clock of twenty-four hours. An hour with a half of the day must not exceed twelve. -/
def hourOfDay? (hour : Nat) (half : Option String) : Option Nat :=
  match half with
  | none => some hour
  | some half =>
    if half = "am" ∧ hour = 12 then some 0
    else if half = "pm" ∧ hour < 12 then some (hour + 12)
    else if 12 < hour then none
    else some hour

/-- The time in a match whose groups are hour, minute and half of the day. An hour alone is none. -/
def ofMatch? (found : Match) : Option (Nat × Nat) := do
  let hour ← (found.group? 1).bind natural?
  let minute := (found.group? 2).bind natural?
  let half := (found.group? 3).map Text.lowercase
  if minute.isNone && half.isNone then none
  else
    let hour ← hourOfDay? hour half
    let minute := minute.getD 0
    if hour < 24 ∧ minute < 60 then some (hour, minute) else none

def find? (pattern : Matcher) (description : String) : Option (Nat × Nat) :=
  (pattern.allMatches description).findSome? ofMatch?

end WorkflowSynthesis.ClockTime
