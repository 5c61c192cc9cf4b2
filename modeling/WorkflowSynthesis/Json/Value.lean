import WorkflowSynthesis.Decimal.Binary64

/-! JSON values. The members of an object keep the order in which they were written. -/

namespace WorkflowSynthesis

/-- Numbers without fraction and exponent stay integers while they fit in 64 bits. -/
inductive Number where
  | integer (value : Int)
  | real (value : Binary64)
  deriving DecidableEq

inductive Json where
  | null
  | bool (value : Bool)
  | number (value : Number)
  | text (value : String)
  | array (items : List Json)
  | object (members : List (String × Json))

instance : Inhabited Json := ⟨.null⟩

abbrev Members := List (String × Json)

namespace Members

def value? (members : Members) (key : String) : Option Json := members.lookup key

def put (key : String) (value : Json) : Members → Members
  | [] => [(key, value)]
  | (other, held) :: rest => if key = other then (key, value) :: rest else (other, held) :: put key value rest

/-- The members of a list in which a key may occur again: the first place and the last value count. -/
def ofList (entries : List (String × Json)) : Members :=
  entries.foldl (fun members entry => put entry.1 entry.2 members) []

end Members

namespace Json

def int (value : Int) : Json := .number (.integer value)

def nat (value : Nat) : Json := .number (.integer value)

def signed (value : Int64) : Json := .int value.toInt

def real (value : Binary64) : Json := .number (.real value)

def texts (values : List String) : Json := .array (values.map .text)

def optional {α : Type} (write : α → Json) : Option α → Json
  | none => .null
  | some value => write value

def list {α : Type} (write : α → Json) (values : List α) : Json := .array (values.map write)

def members? : Json → Option Members
  | .object members => some members
  | _ => none

mutual

def depth : Json → Nat
  | .array items => itemsDepth items + 1
  | .object members => membersDepth members + 1
  | _ => 0

def itemsDepth : List Json → Nat
  | [] => 0
  | item :: rest => max item.depth (itemsDepth rest)

def membersDepth : List (String × Json) → Nat
  | [] => 0
  | (_, value) :: rest => max value.depth (membersDepth rest)

end

end Json

end WorkflowSynthesis
