import WorkflowSynthesis.Json.Reader
import WorkflowSynthesis.Proofs.Json.Tokens

/-!
The document that a written value is read as. It is the document of the value, but for numbers, which are
what their characters are read as.
-/

namespace WorkflowSynthesis

namespace Json

mutual

/-- The document that the text of a value states. -/
def stated : Json → Document
  | .null => .null
  | .bool value => .bool value
  | .number value => .number value.reread
  | .text value => .text (some value)
  | .array items => .array (statedItems items)
  | .object members => .object (statedMembers members)

def statedItems : List Json → List Document
  | [] => []
  | item :: rest => stated item :: statedItems rest

def statedMembers : List (String × Json) → List (Option String × Document)
  | [] => []
  | (key, value) :: rest => (some key, stated value) :: statedMembers rest

end

section Running

open Document (Stage Frame deliver)

/-- The stage that tokens lead to. -/
abbrev run (stage : Stage) (tokens : List Token) : Option Stage := tokens.foldlM Stage.next? stage

variable {frames : List Frame} {later : List Token}

/-- The first item of an array is begun like any value in it. -/
theorem run_firstItem (value : Json) :
    run (.firstItem frames) (tokens value ++ later) = run (.value (.array [] :: frames)) (tokens value ++ later) := by
  match value with
  | .null | .bool _ | .number _ | .text _ => rfl
  | .array [] | .object [] => rfl
  | .array (_ :: _) => rw [tokens]; rfl
  | .object (_ :: _) => rw [tokens]; rfl

mutual

/-- The tokens of a value deliver its document. -/
theorem run_tokens (value : Json) (frames : List Frame) (later : List Token) :
    run (.value frames) (tokens value ++ later) = run (deliver (stated value) frames) later := by
  match value with
  | .null | .bool _ | .number _ | .text _ => rfl
  | .array [] | .object [] => rfl
  | .array (item :: items) =>
    rw [tokens, List.cons_append, List.append_assoc, List.append_assoc]
    calc
      run (.firstItem frames) (tokens item ++ (itemTokens items ++ ([.closeBracket] ++ later)))
        = run (.value (.array [] :: frames)) (tokens item ++ (itemTokens items ++ ([.closeBracket] ++ later))) :=
          run_firstItem item
      _ = run (.nextItem [stated item] frames) (itemTokens items ++ ([.closeBracket] ++ later)) :=
          run_tokens item (.array [] :: frames) _
      _ = run (.nextItem ((statedItems items).reverse ++ [stated item]) frames) ([.closeBracket] ++ later) :=
          run_itemTokens items [stated item] frames _
      _ = run (deliver (.array ((statedItems items).reverse ++ [stated item]).reverse) frames) later := rfl
      _ = run (deliver (stated (.array (item :: items))) frames) later := by simp [stated, statedItems]
  | .object ((key, member) :: members) =>
    rw [tokens, List.cons_append, List.cons_append, List.cons_append, List.append_assoc, List.append_assoc]
    calc
      run (.value (.object [] (some key) :: frames)) (tokens member ++ (memberTokens members ++ ([.closeBrace] ++ later)))
        = run (.nextMember [(some key, stated member)] frames) (memberTokens members ++ ([.closeBrace] ++ later)) :=
          run_tokens member (.object [] (some key) :: frames) _
      _ = run (.nextMember ((statedMembers members).reverse ++ [(some key, stated member)]) frames)
            ([.closeBrace] ++ later) := run_memberTokens members [(some key, stated member)] frames _
      _ = run (deliver (.object ((statedMembers members).reverse ++ [(some key, stated member)]).reverse) frames)
            later := rfl
      _ = run (deliver (stated (.object ((key, member) :: members))) frames) later := by
          simp [stated, statedMembers]

theorem run_itemTokens (items : List Json) (read : List Document) (frames : List Frame) (later : List Token) :
    run (.nextItem read frames) (itemTokens items ++ later) =
      run (.nextItem ((statedItems items).reverse ++ read) frames) later := by
  match items with
  | [] => rfl
  | item :: items =>
    rw [itemTokens, List.cons_append, List.append_assoc]
    calc
      run (.value (.array read :: frames)) (tokens item ++ (itemTokens items ++ later))
        = run (.nextItem (stated item :: read) frames) (itemTokens items ++ later) :=
          run_tokens item (.array read :: frames) _
      _ = run (.nextItem ((statedItems items).reverse ++ stated item :: read) frames) later :=
          run_itemTokens items (stated item :: read) frames later
      _ = run (.nextItem ((statedItems (item :: items)).reverse ++ read) frames) later := by simp [statedItems]

theorem run_memberTokens (members : List (String × Json)) (read : List (Option String × Document))
    (frames : List Frame) (later : List Token) :
    run (.nextMember read frames) (memberTokens members ++ later) =
      run (.nextMember ((statedMembers members).reverse ++ read) frames) later := by
  match members with
  | [] => rfl
  | (key, value) :: members =>
    rw [memberTokens, List.cons_append, List.cons_append, List.cons_append, List.append_assoc]
    calc
      run (.value (.object read (some key) :: frames)) (tokens value ++ (memberTokens members ++ later))
        = run (.nextMember ((some key, stated value) :: read) frames) (memberTokens members ++ later) :=
          run_tokens value (.object read (some key) :: frames) _
      _ = run (.nextMember ((statedMembers members).reverse ++ (some key, stated value) :: read) frames) later :=
          run_memberTokens members ((some key, stated value) :: read) frames later
      _ = run (.nextMember ((statedMembers ((key, value) :: members)).reverse ++ read) frames) later := by
          simp [statedMembers]

end

end Running

end Json

/-- Whatever is written is a document, however it is laid out, namely the one that is stated. -/
theorem Document.parse?_write (layout : Json.Layout) (value : Json) :
    parse? (String.ofList (Json.write layout 0 value)) = some value.stated := by
  have ends : Token.Ends [] := fun c held => by cases held
  have scanned : Token.scan? .between (Json.write layout 0 value) = some (value.tokens) := by
    have whole := Json.scan?_write layout 0 value ends
    simpa [Token.scan?, Token.finish?] using whole
  have ran : value.tokens.foldlM Stage.next? (.value []) = some (.done value.stated) := by
    have whole := Json.run_tokens value [] []
    rwa [List.append_nil] at whole
  rw [parse?, String.toList_ofList, scanned]
  simp [ran, Stage.document?]

theorem Document.parse?_pretty (width : Nat) (value : Json) : parse? (value.pretty width) = some value.stated :=
  parse?_write (.indented width) value

end WorkflowSynthesis
