/-!
Finite binary floating-point numbers of 64 bits, with exact arithmetic underneath: every operation
takes the exact rational result to the nearest number, and a tie to the one with an even code.
-/

namespace WorkflowSynthesis

/-- How many magnitudes lie from one power of two up to the next: `2 ^ 52`. -/
abbrev Binary64.binade : Nat := 0x10000000000000

/-- A finite binary64 number. `code` holds the 63 bits below the sign; codes count the magnitudes in
ascending order. -/
structure Binary64 where
  negative : Bool
  code : Nat
  finite : code < 2047 * Binary64.binade := by decide
  deriving DecidableEq

namespace Binary64

def zero : Binary64 := { negative := false, code := 0 }

def isZero (x : Binary64) : Bool := x.code == 0

def neg (x : Binary64) : Binary64 := { x with negative := !x.negative }

/-- Mantissa and exponent: the magnitude is `mantissa * 2 ^ exponent`. -/
def parts (code : Nat) : Nat × Int :=
  if code < binade then (code, -1074)
  else (binade + code % binade, (code / binade : Nat) - 1075)

/-- The quotient rounded to the nearest integer, ties to even. -/
def roundDiv (numerator denominator : Nat) : Nat :=
  let quotient := numerator / denominator
  let twice := 2 * (numerator % denominator)
  if twice < denominator then quotient
  else if denominator < twice then quotient + 1
  else quotient + quotient % 2

def scaleDown (numerator denominator : Nat) (exponent : Int) : Nat × Nat :=
  (numerator * Nat.pow 2 (-exponent).toNat, denominator * Nat.pow 2 exponent.toNat)

/-- The exponent that leaves a positive fraction with a mantissa of 53 bits, or the least exponent. -/
def exponentOf (numerator denominator : Nat) : Int :=
  let guess : Int := (numerator.log2 : Int) - denominator.log2 - 52
  let (top, bottom) := scaleDown numerator denominator guess
  max (-1074) (if top < bottom * binade then guess - 1 else guess)

/-- The code of the magnitude nearest to a fraction; it may lie beyond the finite ones. -/
def codeOfRatio (numerator denominator : Nat) : Nat :=
  if numerator = 0 then 0
  else
    let exponent := exponentOf numerator denominator
    let (top, bottom) := scaleDown numerator denominator exponent
    (exponent + 1074).toNat * binade + roundDiv top bottom

def ofRatio? (negative : Bool) (numerator denominator : Nat) : Option Binary64 :=
  let code := codeOfRatio numerator denominator
  if finite : code < 2047 * binade then some { negative, code, finite } else none

def ofNat? (value : Nat) : Option Binary64 := ofRatio? false value 1

def ofInt? (value : Int) : Option Binary64 := ofRatio? (decide (value < 0)) value.natAbs 1

def ratio (x : Binary64) : Nat × Nat :=
  let (mantissa, exponent) := parts x.code
  (mantissa * Nat.pow 2 exponent.toNat, Nat.pow 2 (-exponent).toNat)

def mul? (x y : Binary64) : Option Binary64 :=
  let (xTop, xBottom) := x.ratio
  let (yTop, yBottom) := y.ratio
  ofRatio? (x.negative != y.negative) (xTop * yTop) (xBottom * yBottom)

def div? (x y : Binary64) : Option Binary64 :=
  let (xTop, xBottom) := x.ratio
  let (yTop, yBottom) := y.ratio
  ofRatio? (x.negative != y.negative) (xTop * yBottom) (xBottom * yTop)

def powerOfTen? (exponent : Nat) : Option Binary64 := ofNat? (Nat.pow 10 exponent)

end Binary64

end WorkflowSynthesis
