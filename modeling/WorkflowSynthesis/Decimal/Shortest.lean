import WorkflowSynthesis.Decimal.Binary64

/-!
The shortest decimal of a binary64 number: of all decimals that are rounded to the number, one with
the fewest digits, and of those the nearest. Powers of ten are tried from above, so the first grid
with a hit gives the fewest digits.
-/

namespace WorkflowSynthesis.Decimal

/-- The fractions that are rounded to a number: numerators over one denominator. The ends belong to
the interval when `closed` holds. -/
structure Interval where
  low : Nat
  middle : Nat
  high : Nat
  denominator : Nat
  closed : Bool

/-- The interval of a positive magnitude. Below a power of two the neighbour is half as far away. -/
def interval (code : Nat) : Interval :=
  let (mantissa, exponent) := Binary64.parts code
  let below := if code % Binary64.binade = 0 ∧ 2 * Binary64.binade ≤ code then 1 else 2
  let unit := Nat.pow 2 (exponent - 2).toNat
  { low := (4 * mantissa - below) * unit
    middle := 4 * mantissa * unit
    high := (4 * mantissa + 2) * unit
    denominator := Nat.pow 2 (2 - exponent).toNat
    closed := mantissa % 2 == 0 }

def Interval.inUnits (range : Interval) (power : Int) : Interval :=
  let factor := Nat.pow 10 (-power).toNat
  { range with
    low := range.low * factor
    middle := range.middle * factor
    high := range.high * factor
    denominator := range.denominator * Nat.pow 10 power.toNat }

def Interval.holds (range : Interval) (value : Nat) : Bool :=
  let numerator := value * range.denominator
  if range.closed then decide (range.low ≤ numerator) && decide (numerator ≤ range.high)
  else decide (range.low < numerator) && decide (numerator < range.high)

/-- The positive integer of the interval that is nearest to its middle; a tie goes to the even one. -/
def Interval.nearest? (range : Interval) : Option Nat :=
  let below := range.middle / range.denominator
  let above := below + 1
  match decide (0 < below) && range.holds below, range.holds above with
  | false, false => none
  | true, false => some below
  | false, true => some above
  | true, true =>
    let rounded := Binary64.roundDiv range.middle range.denominator
    some (if rounded = below then below else above)

def search (range : Interval) : Nat → Int → Nat × Int
  | 0, power => ((range.inUnits power).middle / (range.inUnits power).denominator, power)
  | attempts + 1, power =>
    match (range.inUnits power).nearest? with
    | some digits => (digits, power)
    | none => search range attempts (power - 1)

/-- Digits and exponent of the shortest decimal of a positive magnitude. Seventeen digits always
suffice; 30103 / 100000 stands for the decimal logarithm of two. -/
def shortest (code : Nat) : Nat × Int :=
  let (mantissa, exponent) := Binary64.parts code
  search (interval code) 20 ((mantissa.log2 + 1 + exponent) * 30103 / 100000 + 1)

end WorkflowSynthesis.Decimal
