/-! Sources of identifiers. A source is an unending list; whoever draws from it keeps count. -/

namespace WorkflowSynthesis

abbrev Identifiers := Nat → String

namespace Identifiers

def fourPlaces (number : Nat) : String :=
  let digits := (toString number).toList
  String.ofList (List.replicate (4 - digits.length) '0' ++ digits)

def sequential (stem : String) : Identifiers := fun index => stem ++ "-" ++ fourPlaces (index + 1)

def after (count : Nat) (identifiers : Identifiers) : Identifiers := fun index => identifiers (count + index)

def scatter (value : UInt64) : UInt64 :=
  let value := (value ^^^ (value >>> 30)) * 0xBF58476D1CE4E5B9
  let value := (value ^^^ (value >>> 27)) * 0x94D049BB133111EB
  value ^^^ (value >>> 31)

def hexDigits (count : Nat) (value : Nat) : List Char :=
  (List.range count).reverse.map fun place => Nat.digitChar ((value >>> (4 * place)) % 16)

def uuids (seed : UInt64) : Identifiers := fun index =>
  let step : UInt64 := 0x9E3779B97F4A7C15
  let place := seed + step * UInt64.ofNat (2 * index)
  let high := (scatter (place + step)).toNat
  let low := (scatter (place + step + step)).toNat
  let groups := [
    hexDigits 8 (high >>> 32),
    hexDigits 4 (high >>> 16),
    '4' :: hexDigits 3 high,
    Nat.digitChar (8 + (low >>> 60) % 4) :: hexDigits 3 (low >>> 48),
    hexDigits 12 low]
  String.ofList (['-'].intercalate groups)

end Identifiers

end WorkflowSynthesis
