import WorkflowSynthesis.Pattern.Boundary
import WorkflowSynthesis.Pattern.SetNotation

/-!
The items of a pattern's text: single characters and sets, boundaries, repetitions, and the marks of
groups, alternatives and flags.
-/

namespace WorkflowSynthesis

/-- What an item means can depend on the flags in force: `any` is the point, `start` and `finish` are
the circumflex and the dollar sign. Sets come with the depth to which their notation nests. Flag settings
come in the order written, with their new value. -/
inductive PatternItem where
  | one (set : SetNotation) (depth : Nat)
  | any
  | start
  | finish
  | boundary (condition : Boundary)
  | repetition (least : Nat) (most : Option Nat) (greedy : Bool)
  | opening (captures : Bool) (name : Option (List Char)) (settings : List (Char × Bool))
  | flags (settings : List (Char × Bool))
  | close
  | bar

namespace PatternItem

def literal (c : Char) : SetNotation := .folded (.char c)

def isMeta (c : Char) : Bool := "\\.+*?()|[]\x7b\x7d^$#&-~".toList.contains c

inductive Escape where
  | char (c : Char)
  | oneOf (set : SetNotation)
  | boundary (condition : Boundary)

def hexValue? (c : Char) : Option Nat :=
  if c.isDigit then some (c.toNat - '0'.toNat)
  else if 'a' ≤ c ∧ c ≤ 'f' then some (c.toNat - 'a'.toNat + 10)
  else if 'A' ≤ c ∧ c ≤ 'F' then some (c.toNat - 'A'.toNat + 10)
  else none

def charOfHex? (digits : List Char) : Option Char := do
  let values ← digits.mapM hexValue?
  let code := values.foldl (fun code value => code * 16 + value) 0
  if !digits.isEmpty ∧ code.isValidChar then some (Char.ofNat code) else none

def hexEscape? (count : Nat) : List Char → Option (Escape × List Char)
  | '\x7b' :: rest =>
    match rest.dropWhile (· ≠ '\x7d') with
    | [] => none
    | _ :: after => (charOfHex? (rest.takeWhile (· ≠ '\x7d'))).map fun c => (.char c, after)
  | chars =>
    if chars.length < count then none
    else (charOfHex? (chars.take count)).map fun c => (.char c, chars.drop count)

def namedProperty? (negated : Bool) (name : List Char) : Option Escape := do
  let set := SetNotation.folded (.property (← Property.ofName? name))
  return .oneOf (if negated then .complement set else set)

def propertyEscape? (negated : Bool) : List Char → Option (Escape × List Char)
  | '\x7b' :: rest =>
    match rest.dropWhile (· ≠ '\x7d') with
    | [] => none
    | _ :: after => (namedProperty? negated (rest.takeWhile (· ≠ '\x7d'))).map (·, after)
  | c :: rest => (namedProperty? negated [c]).map (·, rest)
  | [] => none

/-- The boundary named in braces after a `b`. Braces that cannot hold a name are left for a repetition. -/
def wordBoundary? : List Char → Option (Escape × List Char)
  | '\x7b' :: rest =>
    let isNameChar := fun c : Char => c.isAlpha || c = '-'
    match rest with
    | [] => none
    | first :: _ =>
      if !isNameChar first then some (.boundary .word, '\x7b' :: rest)
      else match String.ofList (rest.takeWhile isNameChar), rest.dropWhile isNameChar with
        | "start", '\x7d' :: after => some (.boundary .wordStart, after)
        | "end", '\x7d' :: after => some (.boundary .wordEnd, after)
        | "start-half", '\x7d' :: after => some (.boundary .wordStartHalf, after)
        | "end-half", '\x7d' :: after => some (.boundary .wordEndHalf, after)
        | _, _ => none
  | chars => some (.boundary .word, chars)

def escape? : List Char → Option (Escape × List Char)
  | [] => none
  | c :: rest =>
    if c = 'x' then hexEscape? 2 rest
    else if c = 'u' then hexEscape? 4 rest
    else if c = 'U' then hexEscape? 8 rest
    else if c = 'p' then propertyEscape? false rest
    else if c = 'P' then propertyEscape? true rest
    else if c = 'd' then some (.oneOf (.property .decimalDigit), rest)
    else if c = 'D' then some (.oneOf (.complement (.property .decimalDigit)), rest)
    else if c = 's' then some (.oneOf (.property .blank), rest)
    else if c = 'S' then some (.oneOf (.complement (.property .blank)), rest)
    else if c = 'w' then some (.oneOf (.property .wordChar), rest)
    else if c = 'W' then some (.oneOf (.complement (.property .wordChar)), rest)
    else if c = 'a' then some (.char '\x07', rest)
    else if c = 'f' then some (.char '\x0c', rest)
    else if c = 't' then some (.char '\t', rest)
    else if c = 'n' then some (.char '\n', rest)
    else if c = 'r' then some (.char '\r', rest)
    else if c = 'v' then some (.char '\x0b', rest)
    else if c = 'A' then some (.boundary .textStart, rest)
    else if c = 'z' then some (.boundary .textEnd, rest)
    else if c = 'b' then wordBoundary? rest
    else if c = 'B' then some (.boundary .notWord, rest)
    else if c = '<' then some (.boundary .wordStart, rest)
    else if c = '>' then some (.boundary .wordEnd, rest)
    else if isMeta c || (c.toNat < 0x80 && !c.isAlphanum) then some (.char c, rest)
    else none

def asciiSet? : List Char → Option (SetNotation × List Char)
  | ':' :: rest => do
    let (negated, rest) := match rest with
      | '^' :: rest => (true, rest)
      | rest => (false, rest)
    match rest.dropWhile (· ≠ ':') with
    | ':' :: ']' :: after =>
      let set := SetNotation.folded (← SetNotation.ofAsciiName? (rest.takeWhile (· ≠ ':')))
      return (if negated then .complement set else set, after)
    | _ => none
  | _ => none

def bracketPart? : List Char → Option (Escape × List Char)
  | '\\' :: rest => escape? rest
  | c :: rest => some (.char c, rest)
  | [] => none

/-- A character, a set or a range inside brackets. A hyphen before the closing bracket or another
hyphen makes no range. -/
def bracketItem? (chars : List Char) : Option (SetNotation × List Char) := do
  let (first, rest) ← bracketPart? chars
  let alone : Option (SetNotation × List Char) := match first with
    | .char c => some (.char c, rest)
    | .oneOf set => some (set, rest)
    | .boundary _ => none
  match rest with
  | '-' :: ']' :: _ => alone
  | '-' :: '-' :: _ => alone
  | '-' :: after =>
    match first, ← bracketPart? after with
    | .char low, (.char high, rest) => if low ≤ high then some (.range low high, rest) else none
    | _, _ => none
  | _ => alone

structure Gathered where
  set : SetNotation := .nothing
  count : Nat := 0
  deepest : Nat := 0

namespace Gathered

def add (gathered : Gathered) (set : SetNotation) (depth : Nat) : Gathered where
  set := .union gathered.set set
  count := gathered.count + 1
  deepest := max gathered.deepest depth

def depth (gathered : Gathered) : Nat := if gathered.count < 2 then gathered.deepest else gathered.deepest + 1

end Gathered

structure Pending where
  operation : SetNotation → SetNotation → SetNotation
  left : SetNotation
  depth : Nat

def Pending.apply (right : Gathered) : Option Pending → SetNotation × Nat
  | none => (right.set, right.depth)
  | some pending =>
    (pending.operation (.folded pending.left) (.folded right.set), max pending.depth right.depth + 1)

def Pending.next (operation : SetNotation → SetNotation → SetNotation) (pending : Option Pending)
    (gathered : Gathered) : Option Pending :=
  let (left, depth) := Pending.apply gathered pending
  some { operation, left, depth }

mutual

/-- A set in brackets, after the opening one, and its depth. Hyphens in front, and a closing bracket right
at the start, stand for themselves. -/
def bracket? : Nat → List Char → Option (SetNotation × Nat × List Char)
  | 0, _ => none
  | fuel + 1, chars => do
    let (negated, chars) := match chars with
      | '^' :: rest => (true, rest)
      | rest => (false, rest)
    let hyphens := chars.takeWhile (· = '-')
    let initial := hyphens.foldl (fun gathered c => gathered.add (.char c) 0) ({} : Gathered)
    let (initial, chars) := match hyphens, chars.dropWhile (· = '-') with
      | [], ']' :: rest => (initial.add (.char ']') 0, rest)
      | _, rest => (initial, rest)
    let (set, depth, rest) ← bracketItems? fuel none initial chars
    let set := SetNotation.folded set
    return (if negated then .complement set else set, depth + 1, rest)

def bracketItems? : Nat → Option Pending → Gathered → List Char → Option (SetNotation × Nat × List Char)
  | 0, _, _, _ => none
  | _ + 1, _, _, [] => none
  | fuel + 1, pending, gathered, chars =>
    match chars with
    | ']' :: rest =>
      let (set, depth) := Pending.apply gathered pending
      some (set, depth, rest)
    | '&' :: '&' :: rest => bracketItems? fuel (Pending.next .intersection pending gathered) {} rest
    | '-' :: '-' :: rest => bracketItems? fuel (Pending.next .difference pending gathered) {} rest
    | '~' :: '~' :: rest => bracketItems? fuel (Pending.next .symmetricDifference pending gathered) {} rest
    | '[' :: rest => do
      match asciiSet? rest with
      | some (inner, rest) => bracketItems? fuel pending (gathered.add inner 0) rest
      | none =>
        let (inner, depth, rest) ← bracket? fuel rest
        bracketItems? fuel pending (gathered.add inner depth) rest
    | chars => do
      let (item, rest) ← bracketItem? chars
      bracketItems? fuel pending (gathered.add item 0) rest

end

def count? (chars : List Char) : Option (Nat × List Char) :=
  let chars := chars.dropWhile Text.isBlank
  let digits := chars.takeWhile Char.isDigit
  let value := digits.foldl (fun value c => value * 10 + (c.toNat - '0'.toNat)) 0
  if digits.isEmpty ∨ 0x100000000 ≤ value then none
  else some (value, (chars.dropWhile Char.isDigit).dropWhile Text.isBlank)

def bounds? (chars : List Char) : Option (Nat × Option Nat × List Char) := do
  match ← count? chars with
  | (least, '\x7d' :: rest) => some (least, some least, rest)
  | (least, ',' :: '\x7d' :: rest) => some (least, none, rest)
  | (least, ',' :: rest) =>
    match ← count? rest with
    | (most, '\x7d' :: rest) => if least ≤ most then some (least, some most, rest) else none
    | _ => none
  | _ => none

def repetitionItem (least : Nat) (most : Option Nat) : List Char → PatternItem × List Char
  | '?' :: rest => (.repetition least most false, rest)
  | rest => (.repetition least most true, rest)

/-- The flags that can be set. Of `x`, `u` and `R` only the values in force from the start are known. -/
def isSetting (c : Char) (value : Bool) : Bool :=
  "imsU".toList.contains c || (if value then c = 'u' else c = 'x' || c = 'R')

/-- Flag settings up to a colon or closing parenthesis: letters, each at most once, of which those
after a hyphen are switched off. -/
def settings? (value : Bool) : List (Char × Bool) → List Char → Option (List (Char × Bool) × List Char)
  | _, [] => none
  | settings, c :: rest =>
    if c = ':' || c = ')' then
      if !value && !(settings.any fun setting => !setting.2) then none else some (settings, c :: rest)
    else if c = '-' then if value then settings? false settings rest else none
    else if isSetting c value ∧ !settings.any (·.1 == c) then
      settings? value (settings ++ [(c, value)]) rest
    else none

def isNameChar (first : Bool) (c : Char) : Bool :=
  c = '_' || (if first then Text.isAlphabetic c
    else c = '.' || c = '[' || c = ']' || Text.isAlphabetic c || Text.isNumeric c)

def groupName? (chars : List Char) : Option (List Char × List Char) :=
  match chars.takeWhile (· ≠ '>'), chars.dropWhile (· ≠ '>') with
  | first :: others, '>' :: rest =>
    if isNameChar true first && others.all (isNameChar false) then some (first :: others, rest) else none
  | _, _ => none

def group? : List Char → Option (PatternItem × List Char)
  | '?' :: 'P' :: '<' :: rest => (groupName? rest).map fun (name, rest) => (.opening true (some name) [], rest)
  | '?' :: '<' :: '=' :: _ => none
  | '?' :: '<' :: '!' :: _ => none
  | '?' :: '<' :: rest => (groupName? rest).map fun (name, rest) => (.opening true (some name) [], rest)
  | '?' :: rest => do
    match ← settings? true [] rest with
    | ([], ')' :: _) => none
    | (settings, ')' :: rest) => some (.flags settings, rest)
    | (settings, _ :: rest) => some (.opening false none settings, rest)
    | _ => none
  | rest => some (.opening true none [], rest)

def next? (first : Char) (rest : List Char) : Option (PatternItem × List Char) :=
  if first = '(' then group? rest
  else if first = ')' then some (.close, rest)
  else if first = '|' then some (.bar, rest)
  else if first = '[' then (bracket? (rest.length + 1) rest).map fun (set, depth, rest) => (.one set depth, rest)
  else if first = '?' then some (repetitionItem 0 (some 1) rest)
  else if first = '*' then some (repetitionItem 0 none rest)
  else if first = '+' then some (repetitionItem 1 none rest)
  else if first = '\x7b' then (bounds? rest).map fun (least, most, rest) => repetitionItem least most rest
  else if first = '.' then some (.any, rest)
  else if first = '^' then some (.start, rest)
  else if first = '$' then some (.finish, rest)
  else if first = '\\' then (escape? rest).map fun (escape, rest) =>
    match escape with
    | .char c => (.one (literal c) 0, rest)
    | .oneOf set => (.one set 0, rest)
    | .boundary condition => (.boundary condition, rest)
  else some (.one (literal first) 0, rest)

/-- The items of a text. Each one takes a character, which bounds their number. -/
def scan? : Nat → List Char → Option (List PatternItem)
  | _, [] => some []
  | 0, _ => none
  | fuel + 1, first :: rest => do
    let (item, rest) ← next? first rest
    return item :: (← scan? fuel rest)

end PatternItem

end WorkflowSynthesis
