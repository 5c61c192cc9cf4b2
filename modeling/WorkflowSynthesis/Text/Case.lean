import WorkflowSynthesis.Text.CaseContext
import WorkflowSynthesis.Text.CaseMapping
import WorkflowSynthesis.Text.Blank

/-! Letter case of whole texts: lower case, upper case, and capitalised words. -/

namespace WorkflowSynthesis.Text

def continuesWord (text : List Char) : Bool :=
  match text.dropWhile isCaseIgnorable with
  | [] => false
  | c :: _ => isCased c

/-- Lower case of the second part of a text, given the first part in reverse. A capital sigma that
ends a word becomes a final sigma; every other character is mapped on its own. -/
def lowerAfter (before : List Char) : List Char → List Char
  | [] => []
  | c :: rest =>
    let lowered :=
      if c = 'Σ' then [if continuesWord before && !continuesWord rest then 'ς' else 'σ'] else lowerChar c
    lowered ++ lowerAfter (c :: before) rest

def lowercase (text : String) : String := String.ofList (lowerAfter [] text.toList)

def uppercase (text : String) : String := String.ofList (text.toList.flatMap upperChar)

def capitalizeChars : List Char → List Char
  | [] => []
  | first :: rest => upperChar first ++ rest.flatMap lowerChar

def capitalize (word : String) : String := String.ofList (capitalizeChars word.toList)

def titleCase (key : String) : String :=
  let parts := stretches (fun c => c = '_' || c = '-' || c = ' ') key.toList
  " ".intercalate (parts.map fun part => String.ofList (capitalizeChars part))

end WorkflowSynthesis.Text
