import WorkflowSynthesis.Proofs.Json.Numbers

/-!
The tokens of written values. What is written is scanned token by token, whatever comes after it, as long
as it does not go on with a word.
-/

namespace WorkflowSynthesis

namespace Token

variable {rest : List Char}

/-- Whether the characters do not go on with a word. -/
def Ends (rest : List Char) : Prop := ∀ c, rest.head? = some c → isWordChar c = false

theorem ends_cons {c : Char} (stops : isWordChar c = false) : Ends (c :: rest) := by
  rintro _ ⟨⟩
  exact stops

theorem scan?_cons (mode : Mode) (c : Char) :
    scan? mode (c :: rest) =
      (step? mode c).bind fun next => (scan? next.2 rest).map (next.1 ++ ·) := by
  rw [scan?]
  cases step? mode c with
  | none => rfl
  | some next =>
    obtain ⟨tokens, mode⟩ := next
    simp only [Option.bind_eq_bind, Option.bind_some]
    cases scan? mode rest <;> rfl

/-- A character that completes no token. -/
theorem scan?_silent {mode next : Mode} {c : Char} (step : step? mode c = some ([], next)) :
    scan? mode (c :: rest) = scan? next rest := by
  rw [scan?_cons, step]
  cases scanned : scan? next rest <;> simp [scanned]

/-- A character that is a token by itself. -/
theorem scan?_mark {c : Char} {token : Token} (mark : start? c = some ([token], .between)) :
    scan? .between (c :: rest) = (scan? .between rest).map (token :: ·) := by
  rw [scan?_cons, step?, mark]
  rfl

theorem scan?_spaces {spaces : List Char} (blank : ∀ c ∈ spaces, isSpace c = true) :
    scan? .between (spaces ++ rest) = scan? .between rest := by
  induction spaces with
  | nil => rfl
  | cons c spaces ih =>
    have step : step? .between c = some ([], .between) := by simp [step?, start?, blank c List.mem_cons_self]
    rw [List.cons_append, scan?_silent step, ih fun other member => blank other (List.mem_cons_of_mem _ member)]

section Words

theorem scan?_wordChars {word : List Char} (read : List Char) (all : ∀ c ∈ word, isWordChar c = true) :
    scan? (.word read) (word ++ rest) = scan? (.word (word.reverse ++ read)) rest := by
  induction word generalizing read with
  | nil => rfl
  | cons c word ih =>
    have step : step? (.word read) c = some ([], .word (c :: read)) := by rw [step?, if_pos (all c List.mem_cons_self)]
    rw [List.cons_append, scan?_silent step, ih (c :: read) fun other member => all other (List.mem_cons_of_mem _ member)]
    simp

/-- A word ends where no further character of one comes. -/
theorem scan?_word (read : List Char) (ends : Ends rest) :
    scan? (.word read) rest = (ofWord? read.reverse).bind fun token => (scan? .between rest).map (token :: ·) := by
  cases rest with
  | nil =>
    rw [scan?, scan?, finish?, finish?]
    cases ofWord? read.reverse <;> rfl
  | cons c rest =>
    rw [scan?_cons, scan?_cons, step?, step?, if_neg (by simp [ends c rfl])]
    cases ofWord? read.reverse with
    | none => rfl
    | some token =>
      cases start? c with
      | none => rfl
      | some next =>
        obtain ⟨tokens, mode⟩ := next
        simp [Function.comp_def]

theorem start?_of_isWordChar {c : Char} (wordChar : isWordChar c = true) : start? c = some ([], .word [c]) := by
  have noSpace : isSpace c = false := by
    rw [Bool.eq_false_iff]
    intro space
    simp only [isSpace, Bool.or_eq_true, decide_eq_true_eq] at space
    rcases space with ((rfl | rfl) | rfl) | rfl <;> exact absurd wordChar (by decide)
  have noQuote : c ≠ '"' := by
    rintro rfl
    exact absurd wordChar (by decide)
  simp [start?, noSpace, noQuote, wordChar]

/-- A whole word between other tokens. -/
theorem scan?_between_word {word : List Char} {token : Token} (all : ∀ c ∈ word, isWordChar c = true)
    (isToken : ofWord? word = some token) (ends : Ends rest) :
    scan? .between (word ++ rest) = (scan? .between rest).map (token :: ·) := by
  cases word with
  | nil => cases isToken
  | cons c word =>
    have step : step? .between c = some ([], .word [c]) := start?_of_isWordChar (all c List.mem_cons_self)
    rw [List.cons_append, scan?_silent step,
      scan?_wordChars [c] fun other member => all other (List.mem_cons_of_mem _ member), scan?_word _ ends]
    simp [isToken]

theorem ofWord?_chars (number : Number) : ofWord? number.chars = some (.number number.reread) := by
  have found := number.ofChars?_chars
  have different : ∀ word : List Char, (Numeral.ofChars? word).isSome = false → number.chars ≠ word := by
    rintro word unread rfl
    simp [found] at unread
  rw [ofWord?, if_neg (different _ rfl), if_neg (different _ rfl), if_neg (different _ rfl), found]
  rfl

theorem isWordChar_chars (number : Number) : ∀ c ∈ number.chars, isWordChar c = true := by
  rw [← Number.chars_spelling]
  exact Numeral.Spelling.isWordChar_chars number.sound_spelling

end Words

section Quotes

/-- The piece that an escaped character is scanned as: a unit if the escape is by number. -/
def pieceOf (c : Char) : Piece :=
  if c.toNat < 0x20 ∧ c ∉ ['\x08', '\x0c', '\n', '\r', '\t'] then .unit c.toNat else .char c

theorem hexValue?_hexDigit : ∀ value < 16, hexValue? (Json.hexDigit value) = some value := by decide

theorem scan?_quoted_char (read : List Piece) {c : Char} (noQuote : c ≠ '"') (noBackslash : c ≠ '\\')
    (noControl : ¬c.toNat < 0x20) :
    scan? (.quoted read) (c :: rest) = scan? (.quoted (.char c :: read)) rest := by
  refine scan?_silent ?_
  rw [step?, if_neg noQuote, if_neg noBackslash, if_neg noControl]

theorem scan?_quoted_escaped (read : List Piece) {c value : Char} (short : escaped? c = some value)
    (noUnit : c ≠ 'u') : scan? (.quoted read) ('\\' :: c :: rest) = scan? (.quoted (.char value :: read)) rest := by
  have step : step? (.escape read) c = some ([], .quoted (.char value :: read)) := by simp [step?, short, noUnit]
  rw [scan?_silent rfl, scan?_silent step]

theorem scan?_quoted_unit (read : List Piece) {high low : Nat} (highDigit : high < 16) (lowDigit : low < 16) :
    scan? (.quoted read) ('\\' :: 'u' :: '0' :: '0' :: Json.hexDigit high :: Json.hexDigit low :: rest) =
      scan? (.quoted (.unit (high * 16 + low) :: read)) rest := by
  have highStep : step? (.hex read 0 2) (Json.hexDigit high) = some ([], .hex read high 1) := by
    simp [step?, hexValue?_hexDigit high highDigit]
  have lowStep : step? (.hex read high 1) (Json.hexDigit low) = some ([], .quoted (.unit (high * 16 + low) :: read)) := by
    simp [step?, hexValue?_hexDigit low lowDigit]
  have zero : ∀ missing, 1 < missing → step? (.hex read 0 missing) '0' = some ([], .hex read 0 (missing - 1)) := by
    intro missing more
    have value : hexValue? '0' = some 0 := rfl
    simp [step?, value, Nat.not_le.mpr more]
  rw [scan?_silent rfl, scan?_silent rfl, scan?_silent (zero 4 (by decide)), scan?_silent (zero 3 (by decide)),
    scan?_silent highStep, scan?_silent lowStep]

theorem scan?_escape (read : List Piece) (c : Char) :
    scan? (.quoted read) (Json.escape c ++ rest) = scan? (.quoted (pieceOf c :: read)) rest := by
  unfold Json.escape
  split
  · next quote =>
    subst quote
    exact scan?_quoted_escaped read rfl (by decide)
  split
  · next backslash =>
    subst backslash
    exact scan?_quoted_escaped read rfl (by decide)
  split
  · next backspace =>
    subst backspace
    exact scan?_quoted_escaped read rfl (by decide)
  split
  · next formFeed =>
    subst formFeed
    exact scan?_quoted_escaped read rfl (by decide)
  split
  · next newline =>
    subst newline
    exact scan?_quoted_escaped read rfl (by decide)
  split
  · next carriageReturn =>
    subst carriageReturn
    exact scan?_quoted_escaped read rfl (by decide)
  split
  · next tab =>
    subst tab
    exact scan?_quoted_escaped read rfl (by decide)
  split
  · next control =>
    have piece : pieceOf c = .unit (c.toNat / 16 * 16 + c.toNat % 16) := by
      rw [Nat.div_add_mod']
      simp_all [pieceOf]
    rw [piece]
    exact scan?_quoted_unit read (by omega) (by omega)
  · next noControl =>
    have piece : pieceOf c = .char c := by simp [pieceOf, noControl]
    rw [piece]
    exact scan?_quoted_char read ‹_› ‹_› noControl

theorem scan?_escapes (text : List Char) (read : List Piece) :
    scan? (.quoted read) (text.flatMap Json.escape ++ rest) =
      scan? (.quoted ((text.map pieceOf).reverse ++ read)) rest := by
  induction text generalizing read with
  | nil => rfl
  | cons c text ih =>
    rw [List.flatMap_cons, List.append_assoc, scan?_escape, ih]
    simp

theorem joinPieces_pieceOf (c : Char) (later : List Piece) :
    joinPieces (pieceOf c :: later) = (joinPieces later).map (c :: ·) := by
  unfold pieceOf
  split
  · next control =>
    have noSurrogate : ¬(0xD800 ≤ c.toNat ∧ c.toNat < 0xDC00) ∧ ¬(0xDC00 ≤ c.toNat ∧ c.toNat < 0xE000) ∧
        ¬(0xD800 ≤ c.toNat ∧ c.toNat < 0xE000) := by omega
    rcases later with _ | ⟨_ | _, later⟩ <;> simp [joinPieces, noSurrogate, Char.ofNat_toNat]
  · rw [joinPieces]

theorem joinPieces_pieces (text : List Char) : joinPieces (text.map pieceOf) = some text := by
  induction text with
  | nil => rfl
  | cons c text ih => rw [List.map_cons, joinPieces_pieceOf, ih, Option.map_some]

/-- A quoted text is scanned as the text. -/
theorem scan?_quote (text : String) :
    scan? .between (Json.quote text ++ rest) = (scan? .between rest).map (.text (some text) :: ·) := by
  have opening : step? .between '"' = some ([], .quoted []) := rfl
  have pieces : joinPieces (text.toList.map pieceOf).reverse.reverse = some text.toList := by
    rw [List.reverse_reverse, joinPieces_pieces]
  rw [Json.quote, List.append_assoc, List.cons_append, scan?_silent opening, scan?_escapes,
    List.append_nil, List.singleton_append, scan?_cons, step?, if_pos rfl, pieces]
  simp [String.ofList_toList]

end Quotes

end Token

namespace Json

open Token (Ends scan? scan?_mark scan?_spaces scan?_quote scan?_between_word ends_cons)

mutual

/-- The tokens of a value. Its numbers are those that their characters are read as. -/
def tokens : Json → List Token
  | .null => [.null]
  | .bool value => [.bool value]
  | .number value => [.number value.reread]
  | .text value => [.text (some value)]
  | .array [] => [.openBracket, .closeBracket]
  | .array (item :: rest) => .openBracket :: (tokens item ++ (itemTokens rest ++ [.closeBracket]))
  | .object [] => [.openBrace, .closeBrace]
  | .object ((key, value) :: rest) =>
    .openBrace :: .text (some key) :: .colon :: (tokens value ++ (memberTokens rest ++ [.closeBrace]))

/-- The tokens of further items. -/
def itemTokens : List Json → List Token
  | [] => []
  | item :: rest => .comma :: (tokens item ++ itemTokens rest)

/-- The tokens of further members. -/
def memberTokens : List (String × Json) → List Token
  | [] => []
  | (key, value) :: rest => .comma :: .text (some key) :: .colon :: (tokens value ++ memberTokens rest)

end

section Layout

variable (layout : Layout) (depth : Nat) {rest : List Char}

theorem scan?_lineBreak : scan? .between (layout.lineBreak depth ++ rest) = scan? .between rest := by
  refine scan?_spaces ?_
  cases layout with
  | compact => simp [Layout.lineBreak]
  | indented width =>
    refine List.forall_mem_cons.mpr ⟨rfl, fun c member => ?_⟩
    rw [List.eq_of_mem_replicate member]
    rfl

theorem scan?_colon :
    scan? .between (layout.colon ++ rest) = (scan? .between rest).map (.colon :: ·) := by
  have colon : Token.start? ':' = some ([.colon], .between) := rfl
  cases layout with
  | compact => exact scan?_mark colon
  | indented width =>
    have space : scan? .between (' ' :: rest) = scan? .between rest := Token.scan?_silent rfl
    rw [← space]
    exact scan?_mark colon

theorem ends_lineBreak (ends : Ends rest) : Ends (layout.lineBreak depth ++ rest) := by
  cases layout with
  | compact => exact ends
  | indented width => exact ends_cons rfl

theorem ends_writeItems (items : List Json) (ends : Ends rest) : Ends (writeItems layout depth items ++ rest) := by
  cases items with
  | nil => simpa [writeItems] using ends
  | cons item items =>
    rw [writeItems]
    exact ends_cons rfl

theorem ends_writeMembers (members : List (String × Json)) (ends : Ends rest) :
    Ends (writeMembers layout depth members ++ rest) := by
  cases members with
  | nil => simpa [writeMembers] using ends
  | cons member members =>
    obtain ⟨key, value⟩ := member
    rw [writeMembers]
    exact ends_cons rfl

end Layout

section Marks

variable {rest : List Char}

theorem scan?_openBracket : scan? .between ('[' :: rest) = (scan? .between rest).map (.openBracket :: ·) :=
  scan?_mark rfl

theorem scan?_closeBracket : scan? .between (']' :: rest) = (scan? .between rest).map (.closeBracket :: ·) :=
  scan?_mark rfl

theorem scan?_openBrace : scan? .between ('\x7b' :: rest) = (scan? .between rest).map (.openBrace :: ·) :=
  scan?_mark rfl

theorem scan?_closeBrace : scan? .between ('\x7d' :: rest) = (scan? .between rest).map (.closeBrace :: ·) :=
  scan?_mark rfl

theorem scan?_comma : scan? .between (',' :: rest) = (scan? .between rest).map (.comma :: ·) :=
  scan?_mark rfl

end Marks

mutual

/-- What is written for a value is scanned as its tokens. -/
theorem scan?_write (layout : Layout) (depth : Nat) (value : Json) {rest : List Char} (ends : Ends rest) :
    scan? .between (write layout depth value ++ rest) = (scan? .between rest).map (tokens value ++ ·) := by
  match value with
  | .null =>
    have word : ∀ c ∈ ['n', 'u', 'l', 'l'], Token.isWordChar c = true := List.all_eq_true.mp (by decide)
    exact scan?_between_word word rfl ends
  | .bool true =>
    have word : ∀ c ∈ ['t', 'r', 'u', 'e'], Token.isWordChar c = true := List.all_eq_true.mp (by decide)
    exact scan?_between_word word rfl ends
  | .bool false =>
    have word : ∀ c ∈ ['f', 'a', 'l', 's', 'e'], Token.isWordChar c = true := List.all_eq_true.mp (by decide)
    exact scan?_between_word word rfl ends
  | .number value =>
    rw [write, tokens]
    exact scan?_between_word (Token.isWordChar_chars value) (Token.ofWord?_chars value) ends
  | .text value =>
    rw [write, tokens]
    exact scan?_quote value
  | .array [] =>
    rw [write, tokens, List.cons_append, List.singleton_append, scan?_openBracket, scan?_closeBracket]
    simp [Function.comp_def]
  | .array (item :: items) =>
    have closing : Ends (layout.lineBreak depth ++ ']' :: rest) := ends_lineBreak layout depth (ends_cons rfl)
    rw [write, tokens]
    simp only [List.cons_append, List.append_assoc, List.nil_append]
    rw [scan?_openBracket, scan?_lineBreak, scan?_write layout (depth + 1) item (ends_writeItems layout _ items closing),
      scan?_writeItems layout (depth + 1) items closing, scan?_lineBreak, scan?_closeBracket]
    simp [Function.comp_def]
  | .object [] =>
    rw [write, tokens, List.cons_append, List.singleton_append, scan?_openBrace, scan?_closeBrace]
    simp [Function.comp_def]
  | .object ((key, value) :: members) =>
    have closing : Ends (layout.lineBreak depth ++ '\x7d' :: rest) := ends_lineBreak layout depth (ends_cons rfl)
    rw [write, tokens]
    simp only [List.cons_append, List.append_assoc, List.nil_append]
    rw [scan?_openBrace, scan?_lineBreak, scan?_quote, scan?_colon,
      scan?_write layout (depth + 1) value (ends_writeMembers layout _ members closing),
      scan?_writeMembers layout (depth + 1) members closing, scan?_lineBreak, scan?_closeBrace]
    simp [Function.comp_def]

theorem scan?_writeItems (layout : Layout) (depth : Nat) (items : List Json) {rest : List Char} (ends : Ends rest) :
    scan? .between (writeItems layout depth items ++ rest) = (scan? .between rest).map (itemTokens items ++ ·) := by
  match items with
  | [] => simp [writeItems, itemTokens]
  | item :: items =>
    rw [writeItems, itemTokens]
    simp only [List.cons_append, List.append_assoc]
    rw [scan?_comma, scan?_lineBreak, scan?_write layout depth item (ends_writeItems layout depth items ends),
      scan?_writeItems layout depth items ends]
    simp [Function.comp_def]

theorem scan?_writeMembers (layout : Layout) (depth : Nat) (members : List (String × Json)) {rest : List Char}
    (ends : Ends rest) :
    scan? .between (writeMembers layout depth members ++ rest) =
      (scan? .between rest).map (memberTokens members ++ ·) := by
  match members with
  | [] => simp [writeMembers, memberTokens]
  | (key, value) :: members =>
    rw [writeMembers, memberTokens]
    simp only [List.cons_append, List.append_assoc]
    rw [scan?_comma, scan?_lineBreak, scan?_quote, scan?_colon,
      scan?_write layout depth value (ends_writeMembers layout depth members ends),
      scan?_writeMembers layout depth members ends]
    simp [Function.comp_def]

end

end Json

end WorkflowSynthesis
