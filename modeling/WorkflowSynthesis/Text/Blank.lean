import WorkflowSynthesis.Text.Ranges

/-! White space, and the cutting of text along it. -/

namespace WorkflowSynthesis.Text

/-- The Unicode property White_Space. -/
def blankRanges : List (Nat × Nat) := [
    (0x9, 0xD), (0x20, 0x20), (0x85, 0x85), (0xA0, 0xA0), (0x1680, 0x1680), (0x2000, 0x200A), (0x2028, 0x2029),
    (0x202F, 0x202F), (0x205F, 0x205F), (0x3000, 0x3000)]

def isBlank (c : Char) : Bool := covers blankRanges c.toNat

def isBlankText (text : String) : Bool := text.toList.all isBlank

def trim (text : String) : String :=
  String.ofList ((text.toList.dropWhile isBlank).reverse.dropWhile isBlank).reverse

def stretches (separates : Char → Bool) : List Char → List (List Char)
  | [] => []
  | c :: rest =>
    let later := stretches separates rest
    if separates c then later
    else match rest, later with
      | next :: _, stretch :: others => if separates next then [c] :: later else (c :: stretch) :: others
      | _, _ => [c] :: later

def words (text : String) : List String := (stretches isBlank text.toList).map String.ofList

end WorkflowSynthesis.Text
