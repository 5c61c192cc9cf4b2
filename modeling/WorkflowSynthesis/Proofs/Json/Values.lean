import Mathlib.Data.List.Nodup
import WorkflowSynthesis.Proofs.Json.Documents

/-!
Reading back what was written. Values that keep every key once, and whose numbers are read as they were
written, are the same after it, unless they nest too deep.
-/

namespace WorkflowSynthesis

namespace Members

def keys (members : Members) : List String := members.map Prod.fst

theorem put_fresh {key : String} {value : Json} {members : Members} (fresh : key ∉ keys members) :
    put key value members = members ++ [(key, value)] := by
  induction members with
  | nil => rfl
  | cons member rest ih =>
    obtain ⟨other, held⟩ := member
    simp only [keys, List.map_cons, List.mem_cons, not_or] at fresh
    rw [put, if_neg fresh.1, ih fresh.2, List.cons_append]

/-- A list in which no key occurs again is kept. -/
theorem ofList_eq {entries : List (String × Json)} (distinct : (keys entries).Nodup) : ofList entries = entries := by
  have extend : ∀ members : Members, (keys (members ++ entries)).Nodup →
      entries.foldl (fun members entry => put entry.1 entry.2 members) members = members ++ entries := by
    clear distinct
    induction entries with
    | nil => simp
    | cons entry rest ih =>
      intro members distinct
      have fresh : entry.1 ∉ keys members := by
        intro member
        rw [keys, List.map_append, List.nodup_append] at distinct
        exact distinct.2.2 entry.1 member entry.1 (by simp) rfl
      rw [List.foldl_cons, put_fresh fresh, ih (members ++ [(entry.1, entry.2)]) (by simpa using distinct)]
      simp
  exact extend [] distinct

end Members

namespace Json

mutual

/-- Whether every key occurs once in its object, and every integer has 64 bits. -/
def Proper : Json → Prop
  | .number value => value.InRange
  | .array items => ProperItems items
  | .object members => (Members.keys members).Nodup ∧ ProperMembers members
  | .null | .bool _ | .text _ => True

def ProperItems : List Json → Prop
  | [] => True
  | item :: rest => item.Proper ∧ ProperItems rest

def ProperMembers : List (String × Json) → Prop
  | [] => True
  | (_, value) :: rest => value.Proper ∧ ProperMembers rest

end

instance : DecidablePred Number.InRange
  | .integer value => inferInstanceAs (Decidable (-0x8000000000000000 ≤ value ∧ value < 0x10000000000000000))
  | .real _ => .isTrue trivial

mutual

/-- Whether a value is proper can be computed. -/
def properDecision : (value : Json) → Decidable value.Proper
  | .number value => inferInstanceAs (Decidable value.InRange)
  | .array items => properItemsDecision items
  | .object members => @instDecidableAnd _ _ inferInstance (properMembersDecision members)
  | .null | .bool _ | .text _ => .isTrue trivial

def properItemsDecision : (items : List Json) → Decidable (ProperItems items)
  | [] => .isTrue trivial
  | item :: rest => @instDecidableAnd _ _ (properDecision item) (properItemsDecision rest)

def properMembersDecision : (members : List (String × Json)) → Decidable (ProperMembers members)
  | [] => .isTrue trivial
  | (_, value) :: rest => @instDecidableAnd _ _ (properDecision value) (properMembersDecision rest)

end

instance : DecidablePred Proper := properDecision

theorem properItems_iff {items : List Json} : ProperItems items ↔ ∀ item ∈ items, item.Proper := by
  induction items with
  | nil => simp [ProperItems]
  | cons item rest ih => simp [ProperItems, ih]

theorem properMembers_iff {members : List (String × Json)} :
    ProperMembers members ↔ ∀ member ∈ members, member.2.Proper := by
  induction members with
  | nil => simp [ProperMembers]
  | cons member rest ih => simp [ProperMembers, ih]

@[simp]
theorem proper_text (value : String) : (Json.text value).Proper := trivial

@[simp]
theorem proper_bool (value : Bool) : (Json.bool value).Proper := trivial

@[simp]
theorem proper_real (value : Binary64) : (Json.real value).Proper := trivial

theorem proper_object {members : Members} (distinct : members.keys.Nodup)
    (proper : ∀ member ∈ members, member.2.Proper) : (Json.object members).Proper :=
  ⟨distinct, properMembers_iff.mpr proper⟩

theorem proper_list {α : Type} {write : α → Json} {values : List α} (proper : ∀ value ∈ values, (write value).Proper) :
    (Json.list write values).Proper :=
  properItems_iff.mpr (List.forall_mem_map.mpr proper)

@[simp]
theorem proper_texts (values : List String) : (Json.texts values).Proper := proper_list fun _ _ => trivial

@[simp]
theorem proper_word (value : UInt32) : (Json.nat value.toNat).Proper := by
  have bound := value.toNat_lt
  exact ⟨by omega, by omega⟩

@[simp]
theorem proper_word64 (value : UInt64) : (Json.nat value.toNat).Proper := by
  have bound := value.toNat_lt
  exact ⟨by omega, by omega⟩

@[simp]
theorem proper_signed (value : Int64) : (Json.signed value).Proper := by
  have low := value.le_toInt
  have high := value.toInt_lt
  exact ⟨by omega, by omega⟩

mutual

/-- The numbers in a value. -/
def numbers : Json → List Number
  | .number value => [value]
  | .array items => itemNumbers items
  | .object members => memberNumbers members
  | .null | .bool _ | .text _ => []

def itemNumbers : List Json → List Number
  | [] => []
  | item :: rest => item.numbers ++ itemNumbers rest

def memberNumbers : List (String × Json) → List Number
  | [] => []
  | (_, value) :: rest => value.numbers ++ memberNumbers rest

end

/-- Whether the real numbers in a value are read as they were written. -/
def Exact (value : Json) : Prop := ∀ real, .real real ∈ value.numbers → (Number.real real).reread = some (.real real)

section Depth

@[simp]
theorem depth_text (value : String) : (Json.text value).depth = 0 := rfl

@[simp]
theorem depth_bool (value : Bool) : (Json.bool value).depth = 0 := rfl

@[simp]
theorem depth_nat (value : Nat) : (Json.nat value).depth = 0 := rfl

@[simp]
theorem depth_signed (value : Int64) : (Json.signed value).depth = 0 := rfl

@[simp]
theorem depth_real (value : Binary64) : (Json.real value).depth = 0 := rfl

theorem itemsDepth_le_iff {items : List Json} {bound : Nat} :
    itemsDepth items ≤ bound ↔ ∀ item ∈ items, item.depth ≤ bound := by
  induction items with
  | nil => simp [itemsDepth]
  | cons item rest ih => simp [itemsDepth, ih]

theorem membersDepth_le_iff {members : Members} {bound : Nat} :
    membersDepth members ≤ bound ↔ ∀ member ∈ members, member.2.depth ≤ bound := by
  induction members with
  | nil => simp [membersDepth]
  | cons member rest ih => simp [membersDepth, ih]

theorem depth_array_le_iff {items : List Json} {bound : Nat} :
    (array items).depth ≤ bound + 1 ↔ ∀ item ∈ items, item.depth ≤ bound := by
  rw [depth, Nat.add_le_add_iff_right, itemsDepth_le_iff]

theorem depth_object_le_iff {members : Members} {bound : Nat} :
    (object members).depth ≤ bound + 1 ↔ ∀ member ∈ members, member.2.depth ≤ bound := by
  rw [depth, Nat.add_le_add_iff_right, membersDepth_le_iff]

theorem depth_texts_le (values : List String) : (Json.texts values).depth ≤ 1 :=
  depth_array_le_iff.mpr (by simp)

theorem depth_list_le_iff {α : Type} {write : α → Json} {values : List α} {bound : Nat} :
    (list write values).depth ≤ bound + 1 ↔ ∀ value ∈ values, (write value).depth ≤ bound := by
  rw [list, depth_array_le_iff, List.forall_mem_map]

mutual

theorem depth_stated (value : Json) : value.stated.depth = value.depth := by
  match value with
  | .null | .bool _ | .number _ | .text _ => rfl
  | .array items => rw [stated, Document.depth, depth, depth_statedItems]
  | .object members => rw [stated, Document.depth, depth, depth_statedMembers]

theorem depth_statedItems (items : List Json) : Document.itemsDepth (statedItems items) = itemsDepth items := by
  match items with
  | [] => rfl
  | item :: items => rw [statedItems, Document.itemsDepth, itemsDepth, depth_stated item, depth_statedItems items]

theorem depth_statedMembers (members : List (String × Json)) :
    Document.membersDepth (statedMembers members) = membersDepth members := by
  match members with
  | [] => rfl
  | (key, value) :: members =>
    rw [statedMembers, Document.membersDepth, membersDepth, depth_stated value, depth_statedMembers members]

end

mutual

theorem depth_ofJson (value : Json) : (Document.ofJson value).depth = value.depth := by
  match value with
  | .null | .bool _ | .number _ | .text _ => rfl
  | .array items => rw [Document.ofJson, Document.depth, depth, depth_ofItems]
  | .object members => rw [Document.ofJson, Document.depth, depth, depth_ofMembers]

theorem depth_ofItems (items : List Json) : Document.itemsDepth (Document.ofItems items) = itemsDepth items := by
  match items with
  | [] => rfl
  | item :: items => rw [Document.ofItems, Document.itemsDepth, itemsDepth, depth_ofJson item, depth_ofItems items]

theorem depth_ofMembers (members : List (String × Json)) :
    Document.membersDepth (Document.ofMembers members) = membersDepth members := by
  match members with
  | [] => rfl
  | (key, value) :: members =>
    rw [Document.ofMembers, Document.membersDepth, membersDepth, depth_ofJson value, depth_ofMembers members]

end

end Depth

section Reading

theorem ofItems_eq_map (items : List Json) : Document.ofItems items = items.map Document.ofJson := by
  induction items with
  | nil => rfl
  | cons item rest ih => rw [Document.ofItems, ih, List.map_cons]

theorem ofMembers_eq_map (members : List (String × Json)) :
    Document.ofMembers members = members.map fun member => (some member.1, Document.ofJson member.2) := by
  induction members with
  | nil => rfl
  | cons member rest ih => rw [Document.ofMembers, ih, List.map_cons]

mutual

/-- The document of a proper value stands for that value. -/
theorem value?_ofJson {value : Json} (proper : value.Proper) : (Document.ofJson value).value? = some value := by
  match value with
  | .null | .bool _ | .number _ | .text _ => rfl
  | .array items =>
    rw [Proper] at proper
    rw [Document.ofJson, Document.value?, itemValues?_ofItems proper, Option.map_some]
  | .object members =>
    rw [Proper] at proper
    rw [Document.ofJson, Document.value?, memberValues?_ofMembers proper.2, Option.map_some,
      Members.ofList_eq proper.1]

theorem itemValues?_ofItems {items : List Json} (proper : ProperItems items) :
    Document.itemValues? (Document.ofItems items) = some items := by
  match items with
  | [] => rfl
  | item :: items =>
    rw [ProperItems] at proper
    rw [Document.ofItems, Document.itemValues?, value?_ofJson proper.1, itemValues?_ofItems proper.2]
    rfl

theorem memberValues?_ofMembers {members : List (String × Json)} (proper : ProperMembers members) :
    Document.memberValues? (Document.ofMembers members) = some members := by
  match members with
  | [] => rfl
  | (key, value) :: members =>
    rw [ProperMembers] at proper
    rw [Document.ofMembers, Document.memberValues?, value?_ofJson proper.1, memberValues?_ofMembers proper.2]
    rfl

end

mutual

/-- A value states its own document if its numbers are read as they were written. -/
theorem stated_eq_ofJson {value : Json} (exact' : ∀ number ∈ value.numbers, number.reread = some number) :
    value.stated = Document.ofJson value := by
  match value with
  | .null | .bool _ | .text _ => rfl
  | .number held => rw [stated, Document.ofJson, exact' held (by simp [numbers])]
  | .array items =>
    rw [numbers] at exact'
    rw [stated, Document.ofJson, statedItems_eq_ofItems exact']
  | .object members =>
    rw [numbers] at exact'
    rw [stated, Document.ofJson, statedMembers_eq_ofMembers exact']

theorem statedItems_eq_ofItems {items : List Json}
    (exact' : ∀ number ∈ itemNumbers items, number.reread = some number) :
    statedItems items = Document.ofItems items := by
  match items with
  | [] => rfl
  | item :: items =>
    rw [itemNumbers, List.forall_mem_append] at exact'
    rw [statedItems, Document.ofItems, stated_eq_ofJson exact'.1, statedItems_eq_ofItems exact'.2]

theorem statedMembers_eq_ofMembers {members : List (String × Json)}
    (exact' : ∀ number ∈ memberNumbers members, number.reread = some number) :
    statedMembers members = Document.ofMembers members := by
  match members with
  | [] => rfl
  | (key, value) :: members =>
    rw [memberNumbers, List.forall_mem_append] at exact'
    rw [statedMembers, Document.ofMembers, stated_eq_ofJson exact'.1, statedMembers_eq_ofMembers exact'.2]

end

mutual

theorem inRange_of_proper {value : Json} (proper : value.Proper) : ∀ number ∈ value.numbers, number.InRange := by
  match value with
  | .null | .bool _ | .text _ => simp [numbers]
  | .number held => simpa [numbers, Proper] using proper
  | .array items =>
    rw [Proper] at proper
    rw [numbers]
    exact inRange_of_properItems proper
  | .object members =>
    rw [Proper] at proper
    rw [numbers]
    exact inRange_of_properMembers proper.2

theorem inRange_of_properItems {items : List Json} (proper : ProperItems items) :
    ∀ number ∈ itemNumbers items, number.InRange := by
  match items with
  | [] => simp [itemNumbers]
  | item :: items =>
    rw [ProperItems] at proper
    rw [itemNumbers, List.forall_mem_append]
    exact ⟨inRange_of_proper proper.1, inRange_of_properItems proper.2⟩

theorem inRange_of_properMembers {members : List (String × Json)} (proper : ProperMembers members) :
    ∀ number ∈ memberNumbers members, number.InRange := by
  match members with
  | [] => simp [memberNumbers]
  | (key, value) :: members =>
    rw [ProperMembers] at proper
    rw [memberNumbers, List.forall_mem_append]
    exact ⟨inRange_of_proper proper.1, inRange_of_properMembers proper.2⟩

end

theorem reread_of_exact {value : Json} (proper : value.Proper) (exact' : value.Exact) :
    ∀ number ∈ value.numbers, number.reread = some number := by
  intro number member
  cases number with
  | integer number => exact Number.reread_integer (inRange_of_proper proper _ member)
  | real number => exact exact' number member

/-- What is written indented is read as the value that it states, unless it nests too deep. -/
theorem parse?_pretty (width : Nat) (value : Json) :
    parse? (value.pretty width) = if value.depth ≤ maximumDepth then value.stated.value? else none := by
  rw [parse?, Document.parse?_pretty, Option.bind_eq_bind, Option.bind_some, depth_stated]

theorem parse?_pretty_of_exact (width : Nat) {value : Json} (proper : value.Proper) (exact' : value.Exact) :
    parse? (value.pretty width) = if value.depth ≤ maximumDepth then some value else none := by
  rw [parse?_pretty, stated_eq_ofJson (reread_of_exact proper exact'), value?_ofJson proper]

end Reading

end Json

end WorkflowSynthesis
