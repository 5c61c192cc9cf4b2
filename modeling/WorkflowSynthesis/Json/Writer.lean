import WorkflowSynthesis.Decimal.Shortest
import WorkflowSynthesis.Json.Value

/-! Writing JSON, on one line or with one member or item a line. -/

namespace WorkflowSynthesis

namespace Number

/-- The digits of a positive magnitude, written positionally from `10 ^ -5` up to `10 ^ 16` and with an
exponent outside. Positional notation always has a digit after the point. -/
def magnitudeChars (code : Nat) : List Char :=
  let (value, power) := Decimal.shortest code
  let digits := (toString value).toList
  let exponent : Int := power + digits.length - 1
  if -5 ≤ exponent ∧ exponent < 16 then
    if 0 ≤ power then digits ++ List.replicate power.toNat '0' ++ ['.', '0']
    else if 0 ≤ exponent then digits.take (exponent.toNat + 1) ++ '.' :: digits.drop (exponent.toNat + 1)
    else '0' :: '.' :: List.replicate (-exponent - 1).toNat '0' ++ digits
  else
    let fraction := if digits.length = 1 then [] else '.' :: digits.drop 1
    let sign := if exponent < 0 then '-' else '+'
    digits.take 1 ++ fraction ++ 'e' :: sign :: (toString exponent.natAbs).toList

def chars : Number → List Char
  | .integer value => (toString value).toList
  | .real value =>
    let magnitude := if value.isZero then ['0', '.', '0'] else magnitudeChars value.code
    if value.negative then '-' :: magnitude else magnitude

end Number

namespace Json

def hexDigit (value : Nat) : Char :=
  if value < 10 then Char.ofNat ('0'.toNat + value) else Char.ofNat ('a'.toNat + (value - 10))

def escape (c : Char) : List Char :=
  if c = '"' then ['\\', '"']
  else if c = '\\' then ['\\', '\\']
  else if c = '\x08' then ['\\', 'b']
  else if c = '\x0c' then ['\\', 'f']
  else if c = '\n' then ['\\', 'n']
  else if c = '\r' then ['\\', 'r']
  else if c = '\t' then ['\\', 't']
  else if c.toNat < 0x20 then ['\\', 'u', '0', '0', hexDigit (c.toNat / 16), hexDigit (c.toNat % 16)]
  else [c]

def quote (text : String) : List Char := '"' :: text.toList.flatMap escape ++ ['"']

inductive Layout where
  | compact
  | indented (width : Nat)

def Layout.lineBreak : Layout → Nat → List Char
  | .compact, _ => []
  | .indented width, depth => '\n' :: List.replicate (width * depth) ' '

def Layout.colon : Layout → List Char
  | .compact => [':']
  | .indented _ => [':', ' ']

mutual

def write (layout : Layout) (depth : Nat) : Json → List Char
  | .null => ['n', 'u', 'l', 'l']
  | .bool true => ['t', 'r', 'u', 'e']
  | .bool false => ['f', 'a', 'l', 's', 'e']
  | .number value => value.chars
  | .text value => quote value
  | .array [] => ['[', ']']
  | .array (item :: rest) =>
    '[' :: layout.lineBreak (depth + 1) ++ write layout (depth + 1) item ++
      writeItems layout (depth + 1) rest ++ layout.lineBreak depth ++ [']']
  | .object [] => ['\x7b', '\x7d']
  | .object ((key, value) :: rest) =>
    '\x7b' :: layout.lineBreak (depth + 1) ++ quote key ++ layout.colon ++ write layout (depth + 1) value ++
      writeMembers layout (depth + 1) rest ++ layout.lineBreak depth ++ ['\x7d']

def writeItems (layout : Layout) (depth : Nat) : List Json → List Char
  | [] => []
  | item :: rest =>
    ',' :: layout.lineBreak depth ++ write layout depth item ++ writeItems layout depth rest

def writeMembers (layout : Layout) (depth : Nat) : List (String × Json) → List Char
  | [] => []
  | (key, value) :: rest =>
    ',' :: layout.lineBreak depth ++ quote key ++ layout.colon ++ write layout depth value ++
      writeMembers layout depth rest

end

def compact (value : Json) : String := String.ofList (write .compact 0 value)

def pretty (width : Nat) (value : Json) : String := String.ofList (write (.indented width) 0 value)

end Json

end WorkflowSynthesis
