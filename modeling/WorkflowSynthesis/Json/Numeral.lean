import WorkflowSynthesis.Json.Value

/-!
JSON numerals: their grammar and the number each one stands for. A numeral that is not a 64-bit
integer is read as a significand of 64 bits, scaled by one power of ten; both steps are rounded.
-/

namespace WorkflowSynthesis

/-- The digits of a numeral. There is no fraction when `fraction` is empty; the exponent comes with
its sign. -/
structure Numeral where
  negative : Bool
  whole : List Nat
  fraction : List Nat
  exponent : Option (Bool × List Nat)

namespace Numeral

def digitValues (digits : List Char) : List Nat := digits.map fun c => c.toNat - '0'.toNat

def isWhole : List Char → Bool
  | [] => false
  | ['0'] => true
  | first :: _ => first ≠ '0'

def exponentOfChars? : List Char → Option (Option (Bool × List Nat))
  | [] => some none
  | mark :: rest =>
    let (negative, digits) := match rest with
      | '+' :: digits => (false, digits)
      | '-' :: digits => (true, digits)
      | digits => (false, digits)
    if (mark = 'e' || mark = 'E') && !digits.isEmpty && digits.all Char.isDigit then
      some (some (negative, digitValues digits))
    else none

def splitSign : List Char → Bool × List Char
  | '-' :: rest => (true, rest)
  | rest => (false, rest)

def splitFraction? : List Char → Option (List Char × List Char)
  | '.' :: rest =>
    let fraction := rest.takeWhile Char.isDigit
    if fraction.isEmpty then none else some (fraction, rest.dropWhile Char.isDigit)
  | rest => some ([], rest)

def ofChars? (chars : List Char) : Option Numeral := do
  let (negative, chars) := splitSign chars
  let whole := chars.takeWhile Char.isDigit
  if !isWhole whole then none
  else
    let (fraction, chars) ← splitFraction? (chars.dropWhile Char.isDigit)
    let exponent ← exponentOfChars? chars
    return { negative, whole := digitValues whole, fraction := digitValues fraction, exponent }

/-- Extends a significand by digits while it stays below `bound`, and returns the digits left over. -/
def gather (bound : Nat) : Nat → List Nat → Nat × List Nat
  | significand, [] => (significand, [])
  | significand, digit :: rest =>
    if significand * 10 + digit < bound then gather bound (significand * 10 + digit) rest
    else (significand, digit :: rest)

def shrink : Nat → Binary64 → Option Binary64
  | 0, value => some value
  | times + 1, value =>
    if value.isZero then some value
    else do shrink times (← value.div? (← Binary64.powerOfTen? 308))

def scale? (significand : Nat) (exponent : Int) : Option Binary64 := do
  let value ← Binary64.ofNat? significand
  if 0 ≤ exponent then
    if exponent ≤ 308 then value.mul? (← Binary64.powerOfTen? exponent.toNat)
    else if value.isZero then some value
    else none
  else
    let places := (-exponent).toNat
    let times := (places - 1) / 308
    let value ← shrink times value
    if value.isZero then some value else value.div? (← Binary64.powerOfTen? (places - 308 * times))

def real? (negative : Bool) (significand : Nat) (exponent : Int) : Option Number := do
  let value ← scale? significand exponent
  return .real (if negative then value.neg else value)

/-- The number of a numeral, unless it overflows. An exponent beyond 31 bits decides on its own. -/
def value? (numeral : Numeral) : Option Number :=
  let (whole, extra) := gather 0x10000000000000000 0 numeral.whole
  match numeral.fraction, numeral.exponent, extra with
  | [], none, [] =>
    if !numeral.negative then some (.integer whole)
    else if 0 < whole ∧ whole ≤ 0x8000000000000000 then some (.integer (-whole))
    else real? true whole 0
  | fraction, exponent, extra =>
    let (significand, unread) := gather 0x10000000000000000 whole fraction
    let places : Int := (extra.length : Int) - (fraction.length - unread.length : Nat)
    match exponent with
    | none => real? numeral.negative significand places
    | some (down, digits) =>
      match gather 0x80000000 0 digits with
      | (size, []) => real? numeral.negative significand (if down then places - size else places + size)
      | _ => if significand ≠ 0 ∧ !down then none else real? numeral.negative 0 0

end Numeral

end WorkflowSynthesis
