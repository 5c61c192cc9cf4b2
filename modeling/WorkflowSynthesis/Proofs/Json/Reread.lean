import WorkflowSynthesis.Parameters
import WorkflowSynthesis.Proofs.Json.Readable

/-!
The value that a written value is read as. Only real numbers may change, to other real numbers, so what is read has
the same keys, nests as deep and is present where it was.
-/

namespace WorkflowSynthesis

namespace Numeral

theorem exists_real_of_real? {negative : Bool} {significand : Nat} {exponent : Int} {number : Number}
    (found : real? negative significand exponent = some number) : ∃ value, number = .real value := by
  obtain ⟨value, _, same⟩ := Option.bind_eq_some_iff.mp found
  exact ⟨_, (Option.some.inj same).symm⟩

/-- A numeral with a fraction or an exponent stands for a real number. -/
theorem exists_real_of_value? {numeral : Numeral} (spelled : numeral.fraction ≠ [] ∨ numeral.exponent ≠ none)
    {number : Number} (found : numeral.value? = some number) : ∃ value, number = .real value := by
  unfold value? at found
  dsimp only at found
  split at found
  · next fraction exponent _ => simp [fraction, exponent] at spelled
  · split at found
    · exact exists_real_of_real? found
    · split at found
      · exact exists_real_of_real? found
      · split at found
        · cases found
        · exact exists_real_of_real? found

end Numeral

namespace Number

/-- The magnitude of a real number is spelled with a point or with an exponent. -/
theorem spelled_magnitudeSpelling (code : Nat) :
    (magnitudeSpelling code).fraction ≠ [] ∨ (magnitudeSpelling code).exponent ≠ none := by
  have length : ((toString (Decimal.shortest code).1).toList).length ≠ 0 := by
    rw [Nat.toString_eq_repr, Nat.toList_repr]
    exact Nat.ne_of_gt Nat.length_toDigits_pos
  unfold magnitudeSpelling
  dsimp only
  generalize (toString (Decimal.shortest code).1).toList = digits at length ⊢
  split
  · refine .inl ?_
    split
    · exact List.cons_ne_nil _ _
    · split
      · rw [ne_eq, List.drop_eq_nil_iff]
        omega
      · exact List.append_ne_nil_of_right_ne_nil _ (List.ne_nil_of_length_pos (Nat.pos_of_ne_zero length))
  · exact .inr (Option.some_ne_none _)

theorem exists_reread_real (value : Binary64) : ∃ read, (real value).reread = some (.real read) := by
  obtain ⟨number, found⟩ := Option.isSome_iff_exists.mp (isSome_reread value)
  have spelled : (real value).spelling.fraction ≠ [] ∨ (real value).spelling.exponent ≠ none := by
    rw [spelling]
    dsimp only
    split
    · exact .inl (List.cons_ne_nil _ _)
    · exact spelled_magnitudeSpelling value.code
  have numeral : (real value).spelling.numeral.fraction ≠ [] ∨ (real value).spelling.numeral.exponent ≠ none :=
    spelled.imp (fun stated empty => stated (List.map_eq_nil_iff.mp empty))
      fun stated absent => stated (Option.map_eq_none_iff.mp absent)
  obtain ⟨read, same⟩ := Numeral.exists_real_of_value? numeral found
  exact ⟨read, same ▸ found⟩

/-- The real number that a written real number is read as. -/
def readReal (value : Binary64) : Binary64 :=
  match (real value).reread with
  | some (.real read) => read
  | _ => value

theorem reread_real (value : Binary64) : (real value).reread = some (.real (readReal value)) := by
  obtain ⟨read, found⟩ := exists_reread_real value
  rw [readReal, found]

/-- The number that a written number is read as, if it is an integer of 64 bits or a real number. -/
def readBack : Number → Number
  | .integer value => .integer value
  | .real value => .real (readReal value)

theorem reread_eq {number : Number} (range : number.InRange) : number.reread = some number.readBack := by
  cases number with
  | integer value => exact reread_integer range
  | real value => exact reread_real value

theorem inRange_readBack {number : Number} (range : number.InRange) : number.readBack.InRange := by
  cases number with
  | integer value => exact range
  | real value => trivial

end Number

namespace Json

mutual

/-- The value that a written value is read as. -/
def readBack : Json → Json
  | .null => .null
  | .bool value => .bool value
  | .number value => .number value.readBack
  | .text value => .text value
  | .array items => .array (readBackItems items)
  | .object members => .object (readBackMembers members)

def readBackItems : List Json → List Json
  | [] => []
  | item :: rest => item.readBack :: readBackItems rest

def readBackMembers : List (String × Json) → List (String × Json)
  | [] => []
  | (key, value) :: rest => (key, value.readBack) :: readBackMembers rest

end

theorem readBackItems_eq (items : List Json) : readBackItems items = items.map readBack := by
  induction items with
  | nil => rfl
  | cons item rest ih => rw [readBackItems, ih, List.map_cons]

theorem readBackMembers_eq (members : Members) :
    readBackMembers members = members.map fun member => (member.1, member.2.readBack) := by
  induction members with
  | nil => rfl
  | cons member rest ih => rw [readBackMembers, ih, List.map_cons]

theorem keys_readBackMembers (members : Members) : Members.keys (readBackMembers members) = members.keys := by
  rw [readBackMembers_eq, Members.keys, List.map_map]
  rfl

mutual

theorem proper_readBack {value : Json} (proper : value.Proper) : value.readBack.Proper := by
  match value with
  | .null | .bool _ | .text _ => trivial
  | .number held => exact held.inRange_readBack proper
  | .array items => exact proper_readBackItems proper
  | .object members => exact ⟨keys_readBackMembers members ▸ proper.1, proper_readBackMembers proper.2⟩

theorem proper_readBackItems {items : List Json} (proper : ProperItems items) : ProperItems (readBackItems items) := by
  match items with
  | [] => trivial
  | item :: items => exact ⟨proper_readBack proper.1, proper_readBackItems proper.2⟩

theorem proper_readBackMembers {members : Members} (proper : ProperMembers members) :
    ProperMembers (readBackMembers members) := by
  match members with
  | [] => trivial
  | (key, value) :: members => exact ⟨proper_readBack proper.1, proper_readBackMembers proper.2⟩

end

mutual

theorem depth_readBack (value : Json) : value.readBack.depth = value.depth := by
  match value with
  | .null | .bool _ | .number _ | .text _ => rfl
  | .array items => rw [readBack, depth, depth, itemsDepth_readBackItems]
  | .object members => rw [readBack, depth, depth, membersDepth_readBackMembers]

theorem itemsDepth_readBackItems (items : List Json) : itemsDepth (readBackItems items) = itemsDepth items := by
  match items with
  | [] => rfl
  | item :: items => rw [readBackItems, itemsDepth, itemsDepth, depth_readBack item, itemsDepth_readBackItems items]

theorem membersDepth_readBackMembers (members : Members) :
    membersDepth (readBackMembers members) = membersDepth members := by
  match members with
  | [] => rfl
  | (key, value) :: members =>
    rw [readBackMembers, membersDepth, membersDepth, depth_readBack value, membersDepth_readBackMembers members]

end

mutual

/-- What a proper value states stands for the value that it is read as. -/
theorem value?_stated {value : Json} (proper : value.Proper) : value.stated.value? = some value.readBack := by
  match value with
  | .null | .bool _ | .text _ => rfl
  | .number held => rw [stated, Document.value?, held.reread_eq proper, Option.map_some, readBack]
  | .array items => rw [stated, Document.value?, itemValues?_statedItems proper, Option.map_some, readBack]
  | .object members =>
    have distinct : (Members.keys (readBackMembers members)).Nodup := keys_readBackMembers members ▸ proper.1
    rw [stated, Document.value?, memberValues?_statedMembers proper.2, Option.map_some, Members.ofList_eq distinct,
      readBack]

theorem itemValues?_statedItems {items : List Json} (proper : ProperItems items) :
    Document.itemValues? (statedItems items) = some (readBackItems items) := by
  match items with
  | [] => rfl
  | item :: items =>
    rw [statedItems, Document.itemValues?, value?_stated proper.1, itemValues?_statedItems proper.2]
    rfl

theorem memberValues?_statedMembers {members : Members} (proper : ProperMembers members) :
    Document.memberValues? (statedMembers members) = some (readBackMembers members) := by
  match members with
  | [] => rfl
  | (key, value) :: members =>
    rw [statedMembers, Document.memberValues?, value?_stated proper.1, memberValues?_statedMembers proper.2]
    rfl

end

/-- A proper value is read from its own text, but for real numbers, unless it nests too deep. -/
theorem parse?_pretty_of_proper (width : Nat) {value : Json} (proper : value.Proper) :
    parse? (value.pretty width) = if value.depth ≤ maximumDepth then some value.readBack else none := by
  rw [parse?_pretty, value?_stated proper]

section Writing

@[simp]
theorem readBack_text (value : String) : (text value).readBack = .text value := rfl

@[simp]
theorem readBack_bool (value : Bool) : (bool value).readBack = .bool value := rfl

@[simp]
theorem readBack_nat (value : Nat) : (nat value).readBack = .nat value := rfl

@[simp]
theorem readBack_signed (value : Int64) : (signed value).readBack = .signed value := rfl

@[simp]
theorem readBack_real (value : Binary64) : (real value).readBack = .real (Number.readReal value) := rfl

@[simp]
theorem readBack_object (members : Members) :
    (object members).readBack = .object (members.map fun member => (member.1, member.2.readBack)) := by
  rw [readBack, readBackMembers_eq]

@[simp]
theorem readBack_array (items : List Json) : (array items).readBack = .array (items.map readBack) := by
  rw [readBack, readBackItems_eq]

@[simp]
theorem readBack_list {α : Type} (write : α → Json) (values : List α) :
    (list write values).readBack = list (fun value => (write value).readBack) values := by
  rw [list, readBack_array, List.map_map]
  rfl

end Writing

end Json

theorem Members.value?_readBackMembers (members : Members) (key : String) :
    Members.value? (Json.readBackMembers members) key = (members.value? key).map Json.readBack := by
  induction members with
  | nil => rfl
  | cons member rest ih =>
    obtain ⟨other, value⟩ := member
    rw [value?, value?] at ih ⊢
    rw [Json.readBackMembers, List.lookup_cons, List.lookup_cons]
    cases key == other with
    | true => rfl
    | false => exact ih

/-- What is read is present where it was before. -/
theorem Parameters.isPresent_readBackMembers (parameters : Members) (field : String) :
    isPresent (Json.readBackMembers parameters) field = isPresent parameters field := by
  rw [isPresent, isPresent, Members.value?_readBackMembers]
  rcases parameters.value? field with _ | value
  · rfl
  · cases value <;> rfl

end WorkflowSynthesis
