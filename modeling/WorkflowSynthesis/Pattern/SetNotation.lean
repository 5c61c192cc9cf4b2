import WorkflowSynthesis.Pattern.Property

/-! Sets of characters as patterns write them. What a notation stands for can depend on letter case. -/

namespace WorkflowSynthesis

/-- `folded set` disregards the case of the members of `set` wherever case is disregarded. -/
inductive SetNotation where
  | nothing
  | range (first last : Char)
  | property (kind : Property)
  | complement (set : SetNotation)
  | union (left right : SetNotation)
  | intersection (left right : SetNotation)
  | folded (set : SetNotation)

namespace SetNotation

def char (c : Char) : SetNotation := .range c c

def difference (left right : SetNotation) : SetNotation := .intersection left (.complement right)

def symmetricDifference (left right : SetNotation) : SetNotation :=
  .union (difference left right) (difference right left)

def charSet (ignoreCase : Bool) : SetNotation → CharSet
  | .nothing => .empty
  | .range first last => .range first.toNat last.toNat
  | .property kind => kind.set
  | .complement set => (set.charSet ignoreCase).complement
  | .union left right => (left.charSet ignoreCase).union (right.charSet ignoreCase)
  | .intersection left right => (left.charSet ignoreCase).intersection (right.charSet ignoreCase)
  | .folded set => if ignoreCase then (set.charSet ignoreCase).folded else set.charSet ignoreCase

def ranges (bounds : List (Char × Char)) : SetNotation :=
  bounds.foldl (fun set bound => .union set (.range bound.1 bound.2)) .nothing

def ofAsciiName? (name : List Char) : Option SetNotation :=
  match String.ofList name with
  | "alnum" => some (ranges [('0', '9'), ('A', 'Z'), ('a', 'z')])
  | "alpha" => some (ranges [('A', 'Z'), ('a', 'z')])
  | "ascii" => some (ranges [('\x00', '\x7f')])
  | "blank" => some (ranges [('\t', '\t'), (' ', ' ')])
  | "cntrl" => some (ranges [('\x00', '\x1f'), ('\x7f', '\x7f')])
  | "digit" => some (ranges [('0', '9')])
  | "graph" => some (ranges [('!', '~')])
  | "lower" => some (ranges [('a', 'z')])
  | "print" => some (ranges [(' ', '~')])
  | "punct" => some (ranges [('!', '/'), (':', '@'), ('[', '\x60'), ('\x7b', '~')])
  | "space" => some (ranges [('\t', '\r'), (' ', ' ')])
  | "upper" => some (ranges [('A', 'Z')])
  | "word" => some (ranges [('0', '9'), ('A', 'Z'), ('_', '_'), ('a', 'z')])
  | "xdigit" => some (ranges [('0', '9'), ('A', 'F'), ('a', 'f')])
  | _ => none

end SetNotation

end WorkflowSynthesis
