import WorkflowSynthesis.Pattern.Basic
import WorkflowSynthesis.Pattern.Footprint
import WorkflowSynthesis.Pattern.Item

/-!
Reading patterns. The items of a text drive a machine that keeps the open groups on a stack, together
with the flags to return to when a group is closed. A pattern that nests too deep or takes too much
memory is refused.
-/

namespace WorkflowSynthesis

/-- `dotAll` lets the point match line feeds too; `swapped` exchanges greedy and other repetitions. -/
structure PatternFlags where
  ignoreCase : Bool := false
  multiLine : Bool := false
  dotAll : Bool := false
  swapped : Bool := false

namespace PatternFlags

def set (flags : PatternFlags) (setting : Char × Bool) : PatternFlags :=
  if setting.1 = 'i' then { flags with ignoreCase := setting.2 }
  else if setting.1 = 'm' then { flags with multiLine := setting.2 }
  else if setting.1 = 's' then { flags with dotAll := setting.2 }
  else if setting.1 = 'U' then { flags with swapped := setting.2 }
  else flags

def setAll (flags : PatternFlags) (settings : List (Char × Bool)) : PatternFlags := settings.foldl set flags

end PatternFlags

namespace Pattern

/-- A part of a pattern, with the depth to which its notation nests. Where flags are set there is
nothing to repeat. -/
structure Part where
  expression : Expression := .empty
  depth : Nat := 0
  repeatable : Bool := true

/-- How deep parts nest that are written side by side: a part alone nests no deeper for that. -/
def Part.jointDepth (parts : List Part) : Nat :=
  let deepest := parts.foldl (fun deepest part => max deepest part.depth) 0
  if parts.length < 2 then deepest else deepest + 1

structure OpenGroup where
  index : Option Nat
  outerFlags : PatternFlags
  branches : List Part := []
  parts : List Part := []

namespace OpenGroup

def branch (group : OpenGroup) : Part where
  expression := .concat (group.parts.reverse.map (·.expression))
  depth := Part.jointDepth group.parts

def body (group : OpenGroup) : Part :=
  let branches := (group.branch :: group.branches).reverse
  { expression := .oneOf (branches.map (·.expression)), depth := Part.jointDepth branches }

def part (group : OpenGroup) : Part :=
  let body := group.body
  { expression := match group.index with
      | none => body.expression
      | some index => .group index body.expression
    depth := body.depth + 1 }

def push (group : OpenGroup) (part : Part) : OpenGroup := { group with parts := part :: group.parts }

end OpenGroup

structure Reading where
  innermost : OpenGroup
  outer : List OpenGroup := []
  flags : PatternFlags
  groups : Nat := 0
  names : List (List Char) := []

namespace Reading

def push (reading : Reading) (expression : Expression) (depth : Nat) : Reading :=
  { reading with innermost := reading.innermost.push { expression, depth } }

def next? (reading : Reading) : PatternItem → Option Reading
  | .one set depth => some (reading.push (.ofSet (set.charSet reading.flags.ignoreCase)) depth)
  | .any =>
    let excluded : CharSet := if reading.flags.dotAll then .empty else .char '\n'
    some (reading.push (.ofSet excluded.complement) 0)
  | .start => some (reading.push (.boundary (if reading.flags.multiLine then .lineStart else .textStart)) 0)
  | .finish => some (reading.push (.boundary (if reading.flags.multiLine then .lineEnd else .textEnd)) 0)
  | .boundary condition => some (reading.push (.boundary condition) 0)
  | .repetition least most greedy =>
    match reading.innermost.parts with
    | body :: parts =>
      if body.repeatable then
        let expression := Expression.repeated least most (greedy != reading.flags.swapped) body.expression
        let part : Part := { expression, depth := body.depth + 1 }
        some { reading with innermost := { reading.innermost with parts := part :: parts } }
      else none
    | [] => none
  | .opening captures name settings =>
    let names := name.toList ++ reading.names
    if name.any reading.names.contains then none
    else
      let groups := if captures then reading.groups + 1 else reading.groups
      some {
        innermost := { index := if captures then some groups else none, outerFlags := reading.flags }
        outer := reading.innermost :: reading.outer
        flags := reading.flags.setAll settings
        groups
        names }
  | .flags settings =>
    some { reading with
      innermost := reading.innermost.push { repeatable := false }
      flags := reading.flags.setAll settings }
  | .close =>
    match reading.outer with
    | [] => none
    | around :: outer =>
      some { reading with
        innermost := around.push reading.innermost.part
        outer
        flags := reading.innermost.outerFlags }
  | .bar =>
    let group := reading.innermost
    some { reading with innermost := { group with branches := group.branch :: group.branches, parts := [] } }

end Reading

def maximumDepth : Nat := 250

def expression? (text : String) (ignoreCase : Bool) : Option Expression := do
  let chars := text.toList
  let items ← PatternItem.scan? chars.length chars
  let flags : PatternFlags := { ignoreCase }
  let reading ← items.foldlM Reading.next? { innermost := { index := none, outerFlags := flags }, flags }
  let body := reading.innermost.body
  if reading.outer.isEmpty && decide (body.depth ≤ maximumDepth) then some body.expression else none

def parse? (text : String) (ignoreCase : Bool) : Option Pattern := do
  let expression ← expression? text ignoreCase
  if expression.fits then some (.ofExpression expression) else none

end Pattern

end WorkflowSynthesis
