import WorkflowSynthesis.Pattern.Expression

/-!
Patterns: regular expressions as programs. An instruction says what a thread that has come to it does
and where it goes on; at a split the thread goes two ways, and the first one is preferred.
-/

namespace WorkflowSynthesis

inductive Instruction where
  | accept
  | one (set : CharSet) (next : Nat)
  | check (condition : Boundary) (next : Nat)
  | mark (slot : Nat) (next : Nat)
  | split (first second : Nat)
  deriving DecidableEq

/-- Group `n` begins at the mark `2 n` and ends at the mark `2 n + 1`. -/
structure Pattern where
  instructions : Array Instruction
  start : Nat
  deriving DecidableEq

namespace Instruction

def again (greedy : Bool) (more stop : Nat) : Instruction := if greedy then .split more stop else .split stop more

end Instruction

/-- Instructions written so far. What is written goes on at a known place, so the last part of a pattern
is written first. -/
abbrev Program := Array Instruction

namespace Program

def write (instruction : Instruction) (program : Program) : Nat × Program :=
  (program.size, program.push instruction)

def writeText (chars : List Char) (next : Nat) (program : Program) : Nat × Program :=
  chars.reverse.foldl (fun (next, program) c => program.write (.one (.char c) next)) (next, program)

def copies (body : Nat → Program → Nat × Program) : Nat → Nat → Program → Nat × Program
  | 0, next, program => (next, program)
  | count + 1, next, program =>
    let (next, program) := body next program
    copies body count next program

def optionalCopies (body : Nat → Program → Nat × Program) (greedy : Bool) (exit : Nat) :
    Nat → Nat → Program → Nat × Program
  | 0, next, program => (next, program)
  | count + 1, next, program =>
    let (entry, program) := body next program
    let (next, program) := program.write (.again greedy entry exit)
    optionalCopies body greedy exit count next program

/-- Writes one or more rounds. The split after the body is written first, since the body goes on there. -/
def rounds (body : Nat → Program → Nat × Program) (greedy : Bool) (next : Nat) (program : Program) :
    Nat × Program :=
  let (split, program) := program.write .accept
  let (entry, program) := body split program
  (entry, program.setIfInBounds split (.again greedy entry next))

end Program

namespace Expression

/-- Writes the instructions for an expression and gives the place of the first one. A repetition whose
body may take no character is entered by a split of its own. -/
def write : Expression → Nat → Program → Nat × Program
  | .empty, next, program => (next, program)
  | .literal chars, next, program => program.writeText chars next
  | .one set, next, program => program.write (.one set next)
  | .boundary condition, next, program => program.write (.check condition next)
  | .group index body, next, program =>
    let (finish, program) := program.write (.mark (2 * index + 1) next)
    let (entry, program) := body.write finish program
    program.write (.mark (2 * index) entry)
  | .sequence first second, next, program =>
    let (entry, program) := second.write next program
    first.write entry program
  | .choice first second, next, program =>
    let (left, program) := first.write next program
    let (right, program) := second.write next program
    program.write (.split left right)
  | .repetition least none greedy body, next, program =>
    match least with
    | 0 =>
      if body.consumes then
        let (split, program) := program.write .accept
        let (entry, program) := body.write split program
        (split, program.setIfInBounds split (.again greedy entry next))
      else
        let (entry, program) := program.rounds body.write greedy next
        program.write (.again greedy entry next)
    | before + 1 =>
      let (entry, program) := program.rounds body.write greedy next
      program.copies body.write before entry
  | .repetition least (some most) greedy body, next, program =>
    let (entry, program) := program.optionalCopies body.write greedy next (most - least) next
    program.copies body.write least entry

end Expression

def Pattern.ofExpression (expression : Expression) : Pattern :=
  let (accept, program) := Program.write .accept #[]
  let (start, instructions) := expression.write accept program
  { instructions, start }

end WorkflowSynthesis
