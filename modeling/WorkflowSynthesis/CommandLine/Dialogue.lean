/-!
Dialogues with a user: programs that print, ask and use files, as values. Whoever conducts a dialogue
supplies the answers.
-/

namespace WorkflowSynthesis

inductive Dialogue (α : Type) where
  | done (result : α)
  | exit (code : Nat)
  | print (text : String) (next : Dialogue α)
  | remark (text : String) (next : Dialogue α)
  /-- A line with its end, or nothing at the end of the input. -/
  | ask (next : String → Dialogue α)
  /-- The content of a file, or the reason why there is none. -/
  | load (path : String) (next : Except String String → Dialogue α)
  /-- Nothing, or the reason why the file was not written. -/
  | save (path content : String) (next : Except String Unit → Dialogue α)

namespace Dialogue

variable {α β : Type}

def bind : Dialogue α → (α → Dialogue β) → Dialogue β
  | .done result, next => next result
  | .exit code, _ => .exit code
  | .print text rest, next => .print text (rest.bind next)
  | .remark text rest, next => .remark text (rest.bind next)
  | .ask rest, next => .ask fun line => (rest line).bind next
  | .load path rest, next => .load path fun content => (rest content).bind next
  | .save path content rest, next => .save path content fun written => (rest written).bind next

instance : Monad Dialogue where
  pure := done
  bind := bind

end Dialogue

end WorkflowSynthesis
