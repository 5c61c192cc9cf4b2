import WorkflowSynthesis.Json.Document
import WorkflowSynthesis.Json.Token

/-!
Reading JSON. The tokens of a text drive a machine that keeps the unfinished containers on a stack,
so a text is read in one pass over its tokens.
-/

namespace WorkflowSynthesis

namespace Document

/-- A container whose end is still to come, with its parts in reverse. An object waits for the value
of its last key. -/
inductive Frame where
  | array (items : List Document)
  | object (members : List (Option String × Document)) (key : Option String)

/-- What may come next: a value; a value or the end of a new array; a key or the end of a new object;
a key after a comma; the colon after a key; what follows a value in an array or object; nothing. -/
inductive Stage where
  | value (frames : List Frame)
  | firstItem (frames : List Frame)
  | firstKey (frames : List Frame)
  | nextKey (members : List (Option String × Document)) (frames : List Frame)
  | colon (members : List (Option String × Document)) (key : Option String) (frames : List Frame)
  | nextItem (items : List Document) (frames : List Frame)
  | nextMember (members : List (Option String × Document)) (frames : List Frame)
  | done (document : Document)

def deliver (document : Document) : List Frame → Stage
  | [] => .done document
  | .array items :: frames => .nextItem (document :: items) frames
  | .object members key :: frames => .nextMember ((key, document) :: members) frames

def beginValue? (frames : List Frame) : Token → Option Stage
  | .null => some (deliver .null frames)
  | .bool value => some (deliver (.bool value) frames)
  | .number value => some (deliver (.number value) frames)
  | .text value => some (deliver (.text value) frames)
  | .openBracket => some (.firstItem frames)
  | .openBrace => some (.firstKey frames)
  | _ => none

def Stage.next? : Stage → Token → Option Stage
  | .value frames, token => beginValue? frames token
  | .firstItem frames, .closeBracket => some (deliver (.array []) frames)
  | .firstItem frames, token => beginValue? (.array [] :: frames) token
  | .firstKey frames, .closeBrace => some (deliver (.object []) frames)
  | .firstKey frames, .text name => some (.colon [] name frames)
  | .nextKey members frames, .text name => some (.colon members name frames)
  | .colon members name frames, .colon => some (.value (.object members name :: frames))
  | .nextItem items frames, .comma => some (.value (.array items :: frames))
  | .nextItem items frames, .closeBracket => some (deliver (.array items.reverse) frames)
  | .nextMember members frames, .comma => some (.nextKey members frames)
  | .nextMember members frames, .closeBrace => some (deliver (.object members.reverse) frames)
  | _, _ => none

def Stage.document? : Stage → Option Document
  | .done document => some document
  | _ => none

def parse? (text : String) : Option Document := do
  let tokens ← Token.scan? .between text.toList
  let stage ← tokens.foldlM Stage.next? (.value [])
  stage.document?

end Document

def maximumDepth : Nat := 127

def Json.parse? (text : String) : Option Json := do
  let document ← Document.parse? text
  if document.depth ≤ maximumDepth then document.value? else none

end WorkflowSynthesis
