import WorkflowSynthesis.Proofs.Json.Values

/-!
What every parsed value has: each key once in its object, integers of 64 bits, and no more nesting than
can be parsed.
-/

namespace WorkflowSynthesis

namespace Members

variable {key : String} {value : Json} {members : Members}

theorem keys_put : keys (put key value members) = if key ∈ keys members then keys members else keys members ++ [key] := by
  induction members with
  | nil => simp [put, keys]
  | cons member rest ih =>
    obtain ⟨other, held⟩ := member
    unfold put
    split
    · next same => simp [keys, same]
    · next different =>
      simp only [keys, List.map_cons, List.mem_cons, different, false_or] at ih ⊢
      rw [ih]
      split <;> simp_all

theorem mem_put {entry : String × Json} (member : entry ∈ put key value members) :
    entry = (key, value) ∨ entry ∈ members := by
  induction members with
  | nil => simpa [put] using member
  | cons head rest ih =>
    obtain ⟨other, held⟩ := head
    unfold put at member
    split at member
    · exact (List.mem_cons.mp member).imp_right (List.mem_cons_of_mem _)
    · rcases List.mem_cons.mp member with rfl | later
      · exact .inr List.mem_cons_self
      · exact (ih later).imp_right (List.mem_cons_of_mem _)

theorem nodup_keys_ofList (entries : List (String × Json)) : (keys (ofList entries)).Nodup := by
  have extend : ∀ members : Members, (keys members).Nodup →
      (keys (entries.foldl (fun members entry => put entry.1 entry.2 members) members)).Nodup := by
    induction entries with
    | nil => exact fun _ distinct => distinct
    | cons entry rest ih =>
      intro members distinct
      refine ih _ ?_
      rw [keys_put]
      split
      · exact distinct
      · next fresh => exact List.nodup_append.mpr ⟨distinct, List.nodup_singleton _, by simp; grind⟩
  exact extend [] .nil

theorem mem_ofList {entry : String × Json} {entries : List (String × Json)} (member : entry ∈ ofList entries) :
    entry ∈ entries := by
  have extend : ∀ members : Members,
      entry ∈ entries.foldl (fun members entry => put entry.1 entry.2 members) members →
        entry ∈ members ∨ entry ∈ entries := by
    clear member
    induction entries with
    | nil => exact fun _ => .inl
    | cons first rest ih =>
      intro members later
      rcases ih _ later with held | listed
      · rcases mem_put held with rfl | old
        · exact .inr List.mem_cons_self
        · exact .inl old
      · exact .inr (List.mem_cons_of_mem _ listed)
  simpa using extend [] member

end Members

namespace Document

mutual

/-- Whether every integer in a document has 64 bits. -/
def InRange : Document → Prop
  | .number (some value) => value.InRange
  | .array items => ItemsInRange items
  | .object members => MembersInRange members
  | _ => True

def ItemsInRange : List Document → Prop
  | [] => True
  | item :: rest => item.InRange ∧ ItemsInRange rest

def MembersInRange : List (Option String × Document) → Prop
  | [] => True
  | (_, value) :: rest => value.InRange ∧ MembersInRange rest

end

theorem itemsInRange_iff {items : List Document} : ItemsInRange items ↔ ∀ item ∈ items, item.InRange := by
  induction items with
  | nil => simp [ItemsInRange]
  | cons item rest ih => simp [ItemsInRange, ih]

theorem membersInRange_iff {members : List (Option String × Document)} :
    MembersInRange members ↔ ∀ member ∈ members, member.2.InRange := by
  induction members with
  | nil => simp [MembersInRange]
  | cons member rest ih => simp [MembersInRange, ih]

end Document

section Values

theorem Json.membersDepth_ofList (entries : List (String × Json)) :
    membersDepth (Members.ofList entries) ≤ membersDepth entries :=
  membersDepth_le_iff.mpr fun entry member => membersDepth_le_iff.mp (Nat.le_refl _) entry (Members.mem_ofList member)

namespace Document

mutual

/-- The value of a document is proper and nests no deeper. -/
theorem proper_of_value? {document : Document} {value : Json} (found : document.value? = some value)
    (range : document.InRange) : value.Proper ∧ value.depth ≤ document.depth := by
  match document with
  | .null | .bool _ =>
    cases found
    exact ⟨trivial, Nat.le_refl _⟩
  | .number none | .text none => cases found
  | .number (some held) =>
    cases found
    exact ⟨range, Nat.le_refl _⟩
  | .text (some held) =>
    cases found
    exact ⟨trivial, Nat.le_refl _⟩
  | .array items =>
    obtain ⟨values, valuesFound, rfl⟩ := Option.map_eq_some_iff.mp found
    obtain ⟨proper, depth⟩ := proper_of_itemValues? valuesFound range
    exact ⟨proper, Nat.succ_le_succ depth⟩
  | .object members =>
    obtain ⟨entries, entriesFound, rfl⟩ := Option.map_eq_some_iff.mp found
    obtain ⟨proper, depth⟩ := proper_of_memberValues? entriesFound range
    refine ⟨⟨Members.nodup_keys_ofList entries, ?_⟩, Nat.succ_le_succ ?_⟩
    · exact Json.properMembers_iff.mpr fun entry member =>
        Json.properMembers_iff.mp proper entry (Members.mem_ofList member)
    · exact Nat.le_trans (Json.membersDepth_ofList entries) depth

theorem proper_of_itemValues? {items : List Document} {values : List Json} (found : itemValues? items = some values)
    (range : ItemsInRange items) : Json.ProperItems values ∧ Json.itemsDepth values ≤ itemsDepth items := by
  match items with
  | [] =>
    cases found
    exact ⟨trivial, Nat.le_refl _⟩
  | item :: items =>
    simp only [itemValues?, Option.bind_eq_bind, Option.bind_eq_some_iff, pure, Option.some.injEq] at found
    obtain ⟨first, firstFound, rest, restFound, rfl⟩ := found
    obtain ⟨firstProper, firstDepth⟩ := proper_of_value? firstFound range.1
    obtain ⟨restProper, restDepth⟩ := proper_of_itemValues? restFound range.2
    exact ⟨⟨firstProper, restProper⟩, by simp only [Json.itemsDepth, itemsDepth]; omega⟩

theorem proper_of_memberValues? {members : List (Option String × Document)} {entries : List (String × Json)}
    (found : memberValues? members = some entries) (range : MembersInRange members) :
    Json.ProperMembers entries ∧ Json.membersDepth entries ≤ membersDepth members := by
  match members with
  | [] =>
    cases found
    exact ⟨trivial, Nat.le_refl _⟩
  | (key, value) :: members =>
    simp only [memberValues?, Option.bind_eq_bind, Option.bind_eq_some_iff, pure, Option.some.injEq] at found
    obtain ⟨key, rfl, first, firstFound, rest, restFound, rfl⟩ := found
    obtain ⟨firstProper, firstDepth⟩ := proper_of_value? firstFound range.1
    obtain ⟨restProper, restDepth⟩ := proper_of_memberValues? restFound range.2
    exact ⟨⟨firstProper, restProper⟩, by simp only [Json.membersDepth, membersDepth]; omega⟩

end

end Document

end Values

section Scanning

namespace Numeral

theorem gather_lt {bound significand : Nat} (digits : List Nat) (below : significand < bound) :
    (gather bound significand digits).1 < bound := by
  induction digits generalizing significand with
  | nil => exact below
  | cons digit rest ih =>
    unfold gather
    split
    · next fits => exact ih fits
    · exact below

theorem inRange_real? {negative : Bool} {significand : Nat} {exponent : Int} {number : Number}
    (found : real? negative significand exponent = some number) : number.InRange := by
  simp only [real?, Option.bind_eq_bind, Option.bind_eq_some_iff, pure, Option.some.injEq] at found
  obtain ⟨_, _, rfl⟩ := found
  trivial

theorem inRange_value? {numeral : Numeral} {number : Number} (found : numeral.value? = some number) :
    number.InRange := by
  have below := gather_lt numeral.whole (show 0 < 0x10000000000000000 by decide)
  unfold value? at found
  generalize gather 0x10000000000000000 0 numeral.whole = gathered at below found
  obtain ⟨whole, extra⟩ := gathered
  dsimp only at below found
  split at found
  · split at found
    · cases found
      exact ⟨by omega, by omega⟩
    · split at found
      · cases found
        exact ⟨by omega, by omega⟩
      · exact inRange_real? found
  · split at found
    · exact inRange_real? found
    · split at found
      · exact inRange_real? found
      · split at found
        · cases found
        · exact inRange_real? found

end Numeral

namespace Token

/-- Whether a token that is a number is in range. -/
def InRange : Token → Prop
  | .number (some value) => value.InRange
  | _ => True

theorem inRange_ofWord? {word : List Char} {token : Token} (found : ofWord? word = some token) : token.InRange := by
  unfold ofWord? at found
  split at found
  · cases found
    trivial
  · split at found
    · cases found
      trivial
    · split at found
      · cases found
        trivial
      · obtain ⟨numeral, _, rfl⟩ := Option.map_eq_some_iff.mp found
        cases value : numeral.value? with
        | none => trivial
        | some number => exact Numeral.inRange_value? value

theorem inRange_ofMark? {c : Char} {token : Token} (found : ofMark? c = some token) : token.InRange := by
  unfold ofMark? at found
  repeat'
    split at found
    · cases found
      trivial
  cases found

theorem inRange_start? {c : Char} {tokens : List Token} {mode : Mode} (found : start? c = some (tokens, mode)) :
    ∀ token ∈ tokens, token.InRange := by
  unfold start? at found
  split at found
  · cases found
    simp
  · split at found
    · cases found
      simp
    · split at found
      · cases found
        simp
      · obtain ⟨token, isMark, same⟩ := Option.map_eq_some_iff.mp found
        cases same
        exact List.forall_mem_singleton.mpr (inRange_ofMark? isMark)

theorem inRange_step? {mode next : Mode} {c : Char} {tokens : List Token} (found : step? mode c = some (tokens, next)) :
    ∀ token ∈ tokens, token.InRange := by
  cases mode with
  | between => exact inRange_start? found
  | word read =>
    rw [step?] at found
    split at found
    · cases found
      simp
    · simp only [Option.bind_eq_bind, Option.bind_eq_some_iff, pure, Option.some.injEq, Prod.mk.injEq] at found
      obtain ⟨token, isWord, ⟨later, mode⟩, started, rfl, rfl⟩ := found
      exact List.forall_mem_cons.mpr ⟨inRange_ofWord? isWord, inRange_start? started⟩
  | quoted read =>
    rw [step?] at found
    split at found
    · cases found
      exact List.forall_mem_singleton.mpr trivial
    · split at found
      · cases found
        simp
      · split at found
        · cases found
        · cases found
          simp
  | escape read =>
    rw [step?] at found
    split at found
    · cases found
      simp
    · obtain ⟨value, _, same⟩ := Option.map_eq_some_iff.mp found
      cases same
      simp
  | hex read code missing =>
    obtain ⟨digit, _, same⟩ := Option.map_eq_some_iff.mp found
    dsimp only at same
    split at same <;> cases same <;> simp

/-- Every scanned number is in range. -/
theorem inRange_scan? {mode : Mode} {chars : List Char} {tokens : List Token} (found : scan? mode chars = some tokens) :
    ∀ token ∈ tokens, token.InRange := by
  induction chars generalizing mode tokens with
  | nil =>
    cases mode with
    | between =>
      cases found
      simp
    | word read =>
      obtain ⟨token, isWord, rfl⟩ := Option.map_eq_some_iff.mp found
      exact List.forall_mem_singleton.mpr (inRange_ofWord? isWord)
    | quoted | escape | hex => cases found
  | cons c rest ih =>
    rw [scan?_cons, Option.bind_eq_some_iff] at found
    obtain ⟨⟨first, next⟩, stepped, further⟩ := found
    obtain ⟨later, scanned, rfl⟩ := Option.map_eq_some_iff.mp further
    exact List.forall_mem_append.mpr ⟨inRange_step? stepped, ih scanned⟩

end Token

end Scanning

section Machine

namespace Document

def Frame.InRange : Frame → Prop
  | .array items => ∀ item ∈ items, item.InRange
  | .object members _ => ∀ member ∈ members, member.2.InRange

/-- Whether every integer in what was read so far has 64 bits. -/
def Stage.InRange : Stage → Prop
  | .value frames | .firstItem frames | .firstKey frames => ∀ frame ∈ frames, frame.InRange
  | .nextKey members frames | .colon members _ frames | .nextMember members frames =>
    (∀ member ∈ members, member.2.InRange) ∧ ∀ frame ∈ frames, frame.InRange
  | .nextItem items frames => (∀ item ∈ items, item.InRange) ∧ ∀ frame ∈ frames, frame.InRange
  | .done document => document.InRange

theorem inRange_deliver {document : Document} {frames : List Frame} (range : document.InRange)
    (around : ∀ frame ∈ frames, frame.InRange) : (deliver document frames).InRange := by
  cases frames with
  | nil => exact range
  | cons frame frames =>
    obtain ⟨inner, outer⟩ := List.forall_mem_cons.mp around
    cases frame with
    | array items => exact ⟨List.forall_mem_cons.mpr ⟨range, inner⟩, outer⟩
    | object members key => exact ⟨List.forall_mem_cons.mpr ⟨range, inner⟩, outer⟩

theorem inRange_beginValue? {frames : List Frame} {token : Token} {stage : Stage}
    (found : beginValue? frames token = some stage) (range : token.InRange)
    (around : ∀ frame ∈ frames, frame.InRange) : stage.InRange := by
  cases token with
  | openBracket | openBrace =>
    cases found
    exact around
  | null | bool | text =>
    cases found
    exact inRange_deliver trivial around
  | number value =>
    cases found
    cases value with
    | none => exact inRange_deliver trivial around
    | some value => exact inRange_deliver range around
  | closeBracket | closeBrace | comma | colon => cases found

theorem inRange_next? {stage next : Stage} {token : Token} (found : stage.next? token = some next)
    (range : token.InRange) (before : stage.InRange) : next.InRange := by
  unfold Stage.next? at found
  split at found
  · exact inRange_beginValue? found range before
  · cases found
    exact inRange_deliver trivial before
  · exact inRange_beginValue? found range (List.forall_mem_cons.mpr ⟨by simp [Frame.InRange], before⟩)
  · cases found
    exact inRange_deliver trivial before
  · cases found
    exact ⟨by simp, before⟩
  · cases found
    exact before
  · cases found
    exact List.forall_mem_cons.mpr before
  · cases found
    exact List.forall_mem_cons.mpr before
  · cases found
    refine inRange_deliver (itemsInRange_iff.mpr fun item member => ?_) before.2
    exact before.1 item (List.mem_reverse.mp member)
  · cases found
    exact before
  · cases found
    refine inRange_deliver (membersInRange_iff.mpr fun item member => ?_) before.2
    exact before.1 item (List.mem_reverse.mp member)
  · cases found

theorem inRange_run {stage final : Stage} {tokens : List Token} (found : tokens.foldlM Stage.next? stage = some final)
    (range : ∀ token ∈ tokens, token.InRange) (before : stage.InRange) : final.InRange := by
  induction tokens generalizing stage with
  | nil =>
    cases found
    exact before
  | cons token rest ih =>
    rw [List.foldlM_cons, Option.bind_eq_bind, Option.bind_eq_some_iff] at found
    obtain ⟨next, stepped, further⟩ := found
    obtain ⟨first, others⟩ := List.forall_mem_cons.mp range
    exact ih further others (inRange_next? stepped first before)

theorem inRange_parse? {text : String} {document : Document} (found : parse? text = some document) :
    document.InRange := by
  simp only [parse?, Option.bind_eq_bind, Option.bind_eq_some_iff] at found
  obtain ⟨tokens, scanned, stage, ran, delivered⟩ := found
  have range := inRange_run ran (Token.inRange_scan? scanned) (by simp [Stage.InRange])
  cases stage with
  | done held =>
    cases delivered
    exact range
  | _ => cases delivered

end Document

end Machine

/-- Every parsed value is proper and nests no deeper than values may. -/
theorem Json.proper_of_parse? {text : String} {value : Json} (found : parse? text = some value) :
    value.Proper ∧ value.depth ≤ maximumDepth := by
  simp only [parse?, Option.bind_eq_bind, Option.bind_eq_some_iff] at found
  obtain ⟨document, parsed, found⟩ := found
  split at found
  · next shallow =>
    obtain ⟨proper, depth⟩ := Document.proper_of_value? found (Document.inRange_parse? parsed)
    exact ⟨proper, Nat.le_trans depth shallow⟩
  · cases found

end WorkflowSynthesis
