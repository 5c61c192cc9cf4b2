import WorkflowSynthesis.Dictionary
import WorkflowSynthesis.Json.Document

/-!
Reading typed values from documents. A record may be written as an object, where unknown keys are
passed over and a known key may occur once, or as an array of its fields in their order.
-/

namespace WorkflowSynthesis

namespace Document

def bool? : Document → Option Bool
  | .bool value => some value
  | _ => none

def text? : Document → Option String
  | .text value => value
  | _ => none

def integer? (low high : Int) : Document → Option Int
  | .number (some (.integer value)) => if low ≤ value ∧ value < high then some value else none
  | _ => none

def word32? (document : Document) : Option UInt32 :=
  (document.integer? 0 0x100000000).map fun value => UInt32.ofNat value.toNat

def word64? (document : Document) : Option UInt64 :=
  (document.integer? 0 0x10000000000000000).map fun value => UInt64.ofNat value.toNat

def signedInteger? : Document → Option Int := integer? (-0x8000000000000000) 0x8000000000000000

def signed64? (document : Document) : Option Int64 := document.signedInteger?.map Int64.ofInt

/-- A number; an integer is taken to the nearest binary64 number. -/
def real? : Document → Option Binary64
  | .number (some (.integer value)) => Binary64.ofInt? value
  | .number (some (.real value)) => some value
  | _ => none

def list? {α : Type} (item? : Document → Option α) : Document → Option (List α)
  | .array items => items.mapM item?
  | _ => none

def pair? {α : Type} (item? : Document → Option α) : Document → Option (α × α)
  | .array [first, second] => do return (← item? first, ← item? second)
  | _ => none

def optional? {α : Type} (item? : Document → Option α) : Document → Option (Option α)
  | .null => some none
  | document => (item? document).map some

def entries? : Document → Option (List (String × Document))
  | .object members => members.mapM fun member => member.1.map (·, member.2)
  | _ => none

def dictionary? {α : Type} (item? : Document → Option α) (document : Document) : Option (Dictionary α) := do
  let entries ← (← document.entries?).mapM fun entry => (item? entry.2).map (entry.1, ·)
  return Dictionary.ofList entries

def labels? (document : Document) : Option Labels := (document.list? text?).map Labels.ofTexts

def members? (room : Nat) (document : Document) : Option Members :=
  match document with
  | .object _ => if document.depth ≤ room then document.value?.bind Json.members? else none
  | _ => none

/-- One of a list of named values: its name, or an object with its name as the only key and `null`. -/
def choice? {α : Type} (choices : List α) (name : α → String) : Document → Option α
  | .text written => written.bind fun text => choices.find? (name · = text)
  | .object [(written, .null)] => written.bind fun text => choices.find? (name · = text)
  | _ => none

end Document

abbrev Fields := List (String × Document)

def Document.fields? (names : List String) : Document → Option Fields
  | .object members => do
    let known := (← (Document.object members).entries?).filter (names.contains ·.1)
    if (known.map (·.1)).Nodup then some known else none
  | .array items => if items.length ≤ names.length then some (names.zip items) else none
  | _ => none

namespace Fields

variable {α : Type}

def required (fields : Fields) (name : String) (read? : Document → Option α) : Option α :=
  (fields.lookup name).bind read?

def orElse (fields : Fields) (name : String) (read? : Document → Option α) (absent : α) : Option α :=
  match fields.lookup name with
  | none => some absent
  | some document => read? document

end Fields

end WorkflowSynthesis
