import WorkflowSynthesis.Json.Numeral

/-! The tokens of a JSON text, read one character at a time. -/

namespace WorkflowSynthesis

inductive Token where
  | openBracket
  | closeBracket
  | openBrace
  | closeBrace
  | comma
  | colon
  | null
  | bool (value : Bool)
  | number (value : Option Number)
  | text (value : Option String)

namespace Token

inductive Piece where
  | char (value : Char)
  | unit (code : Nat)

/-- The characters of a quoted text. A high surrogate must be followed by a low one, and a low one
must follow a high one. -/
def joinPieces : List Piece → Option (List Char)
  | [] => some []
  | .char value :: rest => (joinPieces rest).map (value :: ·)
  | .unit high :: .unit low :: rest =>
    if 0xD800 ≤ high ∧ high < 0xDC00 then
      if 0xDC00 ≤ low ∧ low < 0xE000 then
        (joinPieces rest).map (Char.ofNat (0x10000 + (high - 0xD800) * 0x400 + (low - 0xDC00)) :: ·)
      else none
    else if 0xDC00 ≤ high ∧ high < 0xE000 then none
    else (joinPieces (.unit low :: rest)).map (Char.ofNat high :: ·)
  | .unit code :: rest =>
    if 0xD800 ≤ code ∧ code < 0xE000 then none else (joinPieces rest).map (Char.ofNat code :: ·)

/-- Where the reader stands: between tokens, in a word or numeral, in a quoted text, after its
backslash, or among the four hexadecimal digits of an escape. What was read stands in reverse. -/
inductive Mode where
  | between
  | word (read : List Char)
  | quoted (read : List Piece)
  | escape (read : List Piece)
  | hex (read : List Piece) (code : Nat) (missing : Nat)

def isSpace (c : Char) : Bool := c = ' ' || c = '\n' || c = '\t' || c = '\r'

def isWordChar (c : Char) : Bool := c.isAlphanum || c = '-' || c = '+' || c = '.'

def ofWord? (word : List Char) : Option Token :=
  if word = ['n', 'u', 'l', 'l'] then some .null
  else if word = ['t', 'r', 'u', 'e'] then some (.bool true)
  else if word = ['f', 'a', 'l', 's', 'e'] then some (.bool false)
  else (Numeral.ofChars? word).map fun numeral => .number numeral.value?

def ofMark? (c : Char) : Option Token :=
  if c = '[' then some .openBracket
  else if c = ']' then some .closeBracket
  else if c = '\x7b' then some .openBrace
  else if c = '\x7d' then some .closeBrace
  else if c = ',' then some .comma
  else if c = ':' then some .colon
  else none

def start? (c : Char) : Option (List Token × Mode) :=
  if isSpace c then some ([], .between)
  else if c = '"' then some ([], .quoted [])
  else if isWordChar c then some ([], .word [c])
  else (ofMark? c).map fun token => ([token], .between)

def hexValue? (c : Char) : Option Nat :=
  if c.isDigit then some (c.toNat - '0'.toNat)
  else if 'a' ≤ c ∧ c ≤ 'f' then some (c.toNat - 'a'.toNat + 10)
  else if 'A' ≤ c ∧ c ≤ 'F' then some (c.toNat - 'A'.toNat + 10)
  else none

def escaped? (c : Char) : Option Char :=
  if c = '"' || c = '\\' || c = '/' then some c
  else if c = 'b' then some '\x08'
  else if c = 'f' then some '\x0c'
  else if c = 'n' then some '\n'
  else if c = 'r' then some '\r'
  else if c = 't' then some '\t'
  else none

def step? : Mode → Char → Option (List Token × Mode)
  | .between, c => start? c
  | .word read, c =>
    if isWordChar c then some ([], .word (c :: read))
    else do
      let token ← ofWord? read.reverse
      let (tokens, mode) ← start? c
      return (token :: tokens, mode)
  | .quoted read, c =>
    if c = '"' then some ([.text ((joinPieces read.reverse).map String.ofList)], .between)
    else if c = '\\' then some ([], .escape read)
    else if c.toNat < 0x20 then none
    else some ([], .quoted (.char c :: read))
  | .escape read, c =>
    if c = 'u' then some ([], .hex read 0 4)
    else (escaped? c).map fun value => ([], .quoted (.char value :: read))
  | .hex read code missing, c =>
    (hexValue? c).map fun digit =>
      let code := code * 16 + digit
      if missing ≤ 1 then ([], .quoted (.unit code :: read)) else ([], .hex read code (missing - 1))

def finish? : Mode → Option (List Token)
  | .between => some []
  | .word read => (ofWord? read.reverse).map ([·])
  | _ => none

def scan? : Mode → List Char → Option (List Token)
  | mode, [] => finish? mode
  | mode, c :: rest => do
    let (tokens, mode) ← step? mode c
    return tokens ++ (← scan? mode rest)

end Token

end WorkflowSynthesis
