import WorkflowSynthesis.Pattern.Boundary

/-!
Regular expressions in a reduced form: texts instead of sequences of single characters, sets instead of
choices between characters, and no sequence or choice directly inside another one.
-/

namespace WorkflowSynthesis

/-- An alternative is preferred to those after it. A greedy repetition prefers more rounds, any other
fewer. Sequences and choices of more than two parts lean to the right. -/
inductive Expression where
  | empty
  | literal (chars : List Char)
  | one (set : CharSet)
  | boundary (condition : Boundary)
  | group (index : Nat) (body : Expression)
  | sequence (first second : Expression)
  | choice (first second : Expression)
  | repetition (least : Nat) (most : Option Nat) (greedy : Bool) (body : Expression)
  deriving DecidableEq

namespace Expression

instance : Inhabited Expression := ⟨.empty⟩

def isZeroWidth : Expression → Bool
  | .empty | .boundary _ => true
  | .literal _ | .one _ => false
  | .group _ body => body.isZeroWidth
  | .sequence first second | .choice first second => first.isZeroWidth && second.isZeroWidth
  | .repetition _ most _ body => most.isSome && body.isZeroWidth

/-- The least length of a match, unless one of the sets in the expression is empty. -/
def leastLength? : Expression → Option Nat
  | .empty | .boundary _ => some 0
  | .literal chars => some chars.length
  | .one set => if set.ranges.isEmpty then none else some 1
  | .group _ body => body.leastLength?
  | .sequence first second => do return (← first.leastLength?) + (← second.leastLength?)
  | .choice first second => do return min (← first.leastLength?) (← second.leastLength?)
  | .repetition least _ _ body => body.leastLength?.map (least * ·)

def consumes (expression : Expression) : Bool := expression.leastLength?.any (0 < ·)

def parts : Expression → List Expression
  | .empty => []
  | .sequence first second => first :: second.parts
  | expression => [expression]

def branches : Expression → List Expression
  | .choice first second => first :: second.branches
  | expression => [expression]

def size : Expression → Nat
  | .empty | .literal _ | .one _ | .boundary _ => 1
  | .group _ body | .repetition _ _ _ body => body.size + 1
  | .sequence first second | .choice first second => first.size + second.size + 1

def ofText (chars : List Char) : Expression := if chars.isEmpty then .empty else .literal chars

def ofSet (set : CharSet) : Expression :=
  match set.single? with
  | some c => .literal [c]
  | none => .one set

def consPart : Expression → List Expression → List Expression
  | .literal chars, .literal more :: parts => .literal (chars ++ more) :: parts
  | part, parts => part :: parts

def ofParts : List Expression → Expression
  | [] => .empty
  | [part] => part
  | part :: parts => .sequence part (ofParts parts)

def concat (expressions : List Expression) : Expression :=
  ofParts ((expressions.flatMap parts).foldr consPart [])

/-- More than one round of an expression without width is like one round. -/
def repeated (least : Nat) (most : Option Nat) (greedy : Bool) (body : Expression) : Expression :=
  let (least, most) := if body.isZeroWidth then (min least 1, some (min (most.getD 1) 1)) else (least, most)
  if most = some 0 then .empty
  else if least = 1 ∧ most = some 1 then body
  else .repetition least most greedy body

def isOneChar : Expression → Bool
  | .literal [_] => true
  | _ => false

def isOne : Expression → Bool
  | .one _ => true
  | _ => false

def charSet : Expression → CharSet
  | .literal [c] => .char c
  | .one set => set
  | _ => .empty

def ofBranches : List Expression → Expression
  | [] => .one .empty
  | [branch] => branch
  | branch :: branches => .choice branch (ofBranches branches)

def commonPrefix : List Expression → List Expression → List Expression
  | left :: lefts, right :: rights => if left = right then left :: commonPrefix lefts rights else []
  | _, _ => []

def sharedPrefix : List Expression → List Expression
  | [] => []
  | first :: others =>
    if (first :: others).all fun branch => decide (1 < branch.parts.length) then
      others.foldl (fun shared branch => commonPrefix shared branch.parts) first.parts
    else []

/-- A choice between expressions. Choices between characters become sets, and what all alternatives
begin with stands once in front. -/
def alternatives : Nat → List Expression → Expression
  | 0, expressions => ofBranches (expressions.flatMap branches)
  | fuel + 1, expressions =>
    let all := expressions.flatMap branches
    match all with
    | [branch] => branch
    | all =>
      if all.all isOneChar || all.all isOne then
        ofSet (all.foldl (fun set branch => set.union branch.charSet) .empty)
      else
        let shared := sharedPrefix all
        if shared.isEmpty then ofBranches all
        else
          let ends := all.map fun branch => concat (branch.parts.drop shared.length)
          concat (shared ++ [alternatives fuel ends])

/-- A choice between expressions. Each shared beginning makes the alternatives smaller. -/
def oneOf (expressions : List Expression) : Expression :=
  match expressions with
  | [expression] => expression
  | expressions => alternatives (expressions.foldl (fun total expression => total + expression.size) 1) expressions

end Expression

end WorkflowSynthesis
