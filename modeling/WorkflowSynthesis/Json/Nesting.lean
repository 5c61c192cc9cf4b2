import WorkflowSynthesis.Json.Reader

/-! Where a JSON text nests too deep to be read as a value. -/

namespace WorkflowSynthesis

/-- A place in a text by line and column. Columns count bytes of UTF-8; both start at one. -/
structure TextPlace where
  line : Nat
  column : Nat
  deriving DecidableEq

def TextPlace.message (place : TextPlace) : String :=
  "recursion limit exceeded at line " ++ toString place.line ++ " column " ++ toString place.column

namespace Json

inductive QuoteState where
  | outside
  | inside
  | escaped

def QuoteState.next : QuoteState → Char → QuoteState
  | .outside, c => if c = '"' then .inside else .outside
  | .inside, c => if c = '"' then .outside else if c = '\\' then .escaped else .inside
  | .escaped, _ => .inside

def tooDeepFrom? (quote : QuoteState) (place : TextPlace) (room : Nat) : List Char → Option TextPlace
  | [] => none
  | c :: rest =>
    let after := if c = '\n' then ⟨place.line + 1, 1⟩ else ⟨place.line, place.column + c.utf8Size⟩
    match quote with
    | .outside =>
      if c = '[' ∨ c = '\x7b' then
        match room with
        | 0 => some place
        | room + 1 => tooDeepFrom? .outside after room rest
      else if c = ']' ∨ c = '\x7d' then tooDeepFrom? .outside after (room + 1) rest
      else tooDeepFrom? (QuoteState.outside.next c) after room rest
    | quote => tooDeepFrom? (quote.next c) after room rest

def firstTooDeep? (text : String) : Option TextPlace := tooDeepFrom? .outside ⟨1, 1⟩ maximumDepth text.toList

end Json

end WorkflowSynthesis
