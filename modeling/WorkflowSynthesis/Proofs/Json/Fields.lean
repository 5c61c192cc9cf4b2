import WorkflowSynthesis.Json.Fields
import WorkflowSynthesis.Proofs.Dictionary
import WorkflowSynthesis.Proofs.Json.Parsed
import WorkflowSynthesis.Settings.Writer

/-!
Typed values in documents. What was written is read again, and whatever is read stands in a proper value
that nests less deep than the one around it.
-/

namespace WorkflowSynthesis

section Reading

variable {α β γ : Type}

theorem mapM_map_eq_some {read? : β → Option γ} {write : α → β} {result : α → γ} {values : List α}
    (reads : ∀ value ∈ values, read? (write value) = some (result value)) :
    (values.map write).mapM read? = some (values.map result) := by
  induction values with
  | nil => rfl
  | cons value rest ih =>
    obtain ⟨first, later⟩ := List.forall_mem_cons.mp reads
    simp [first, ih later]

theorem mapM_map_eq_self {read? : β → Option α} {write : α → β} {values : List α}
    (reads : ∀ value ∈ values, read? (write value) = some value) : (values.map write).mapM read? = some values := by
  have whole := mapM_map_eq_some reads
  rwa [List.map_id'] at whole

theorem exists_of_mem_mapM {read? : α → Option β} {items : List α} {results : List β} {result : β}
    (found : items.mapM read? = some results) (member : result ∈ results) : ∃ item ∈ items, read? item = some result := by
  induction items generalizing results with
  | nil =>
    cases found
    cases member
  | cons item rest ih =>
    simp only [List.mapM_cons, Option.bind_eq_bind, Option.bind_eq_some_iff, pure, Option.some.injEq] at found
    obtain ⟨first, firstRead, later, laterRead, rfl⟩ := found
    rcases List.mem_cons.mp member with rfl | member
    · exact ⟨item, List.mem_cons_self, firstRead⟩
    · obtain ⟨held, listed, read⟩ := ih laterRead member
      exact ⟨held, List.mem_cons_of_mem _ listed, read⟩

namespace Document

@[simp]
theorem text?_text (value : String) : (ofJson (.text value)).text? = some value := rfl

@[simp]
theorem optional?_text (value : String) : (ofJson (.text value)).optional? text? = some (some value) := rfl

@[simp]
theorem bool?_bool (value : Bool) : (ofJson (.bool value)).bool? = some value := rfl

@[simp]
theorem real?_real (value : Binary64) : (ofJson (.real value)).real? = some value := rfl

@[simp]
theorem word32?_nat (value : UInt32) : (ofJson (.nat value.toNat)).word32? = some value := by
  have small : (0 : Int) ≤ value.toNat ∧ (value.toNat : Int) < 0x100000000 := by
    have bound := value.toNat_lt
    omega
  simp [word32?, integer?, ofJson, Json.nat, small]

@[simp]
theorem word64?_nat (value : UInt64) : (ofJson (.nat value.toNat)).word64? = some value := by
  have small : (0 : Int) ≤ value.toNat ∧ (value.toNat : Int) < 0x10000000000000000 := by
    have bound := value.toNat_lt
    omega
  simp [word64?, integer?, ofJson, Json.nat, small]

/-- An integer that fits in 64 bits is written and read with them. -/
theorem signedInteger?_signed {value : Int} (low : -0x8000000000000000 ≤ value) (high : value < 0x8000000000000000) :
    (ofJson (.signed (.ofInt value))).signedInteger? = some value := by
  have kept : (Int64.ofInt value).toInt = value := Int64.toInt_ofInt_of_le low (by omega)
  simp [signedInteger?, integer?, ofJson, Json.signed, Json.int, kept, low, high]

@[simp]
theorem signed64?_signed (value : Int64) : (ofJson (.signed value)).signed64? = some value := by
  have read := signedInteger?_signed value.le_toInt value.toInt_lt
  rw [Int64.ofInt_toInt] at read
  rw [signed64?, read, Option.map_some, Int64.ofInt_toInt]

@[simp]
theorem pair?_signed (first second : Int64) :
    (ofJson (.array [.signed first, .signed second])).pair? signed64? = some (first, second) := by
  rw [ofJson, Document.ofItems, Document.ofItems, Document.ofItems, pair?, signed64?_signed, signed64?_signed]
  rfl

@[simp]
theorem optional?_optional (value : Option String) :
    (ofJson (.optional .text value)).optional? text? = some value := by
  cases value <;> rfl

theorem range_of_integer? {low high value : Int} {document : Document} (found : document.integer? low high = some value) :
    low ≤ value ∧ value < high := by
  unfold integer? at found
  split at found
  · simp only [Option.ite_none_right_eq_some, Option.some.injEq] at found
    obtain ⟨range, rfl⟩ := found
    exact range
  · cases found

theorem list?_list {read? : Document → Option β} {write : α → Json} {result : α → β} {values : List α}
    (reads : ∀ value ∈ values, read? (ofJson (write value)) = some (result value)) :
    (ofJson (.list write values)).list? read? = some (values.map result) := by
  rw [Json.list, ofJson, list?, Json.ofItems_eq_map, List.map_map]
  exact mapM_map_eq_some reads

@[simp]
theorem list?_texts (values : List String) : (ofJson (.texts values)).list? text? = some values := by
  have read := list?_list fun value (_ : value ∈ values) => text?_text value
  rwa [List.map_id'] at read

theorem entries?_object (members : Members) :
    (ofJson (.object members)).entries? = some (members.map fun member => (member.1, ofJson member.2)) := by
  rw [ofJson, entries?, Json.ofMembers_eq_map]
  exact mapM_map_eq_some fun _ _ => rfl

theorem dictionary?_toJson {read? : Document → Option α} {write : α → Json} {dictionary : Dictionary α}
    (reads : ∀ entry ∈ dictionary.entries, read? (ofJson (write entry.2)) = some entry.2) :
    (ofJson (dictionary.toJson write)).dictionary? read? = some dictionary := by
  rw [dictionary?, Dictionary.toJson, entries?_object, List.map_map, Option.bind_eq_bind, Option.bind_some,
    mapM_map_eq_self, Option.bind_eq_bind, Option.bind_some]
  · exact congrArg some dictionary.ofList_entries
  · intro entry member
    simp [reads entry member]

@[simp]
theorem dictionary?_texts (dictionary : Dictionary String) :
    (ofJson (dictionary.toJson .text)).dictionary? text? = some dictionary :=
  dictionary?_toJson fun _ _ => rfl

@[simp]
theorem labels?_toJson (labels : Labels) : (ofJson labels.toJson).labels? = some labels := by
  rw [labels?, Labels.toJson, list?_texts, Option.map_some, Labels.ofTexts, Dictionary.keys, List.map_map]
  exact congrArg some ((congrArg Dictionary.ofList (List.map_id _)).trans (Dictionary.ofList_entries labels))

theorem members?_object {members : Members} {room : Nat} (proper : (Json.object members).Proper)
    (shallow : (Json.object members).depth ≤ room) : (ofJson (.object members)).members? room = some members := by
  have value := Json.value?_ofJson proper
  have depth := Json.depth_ofJson (.object members)
  rw [ofJson] at value depth ⊢
  rw [members?, depth, if_pos shallow, value]
  rfl

/-- All fields of a written record are found if its names are known and distinct. -/
theorem fields?_object {names : List String} {members : Members} (known : ∀ name ∈ members.keys, name ∈ names)
    (distinct : members.keys.Nodup) :
    (ofJson (.object members)).fields? names = some (members.map fun member => (member.1, ofJson member.2)) := by
  have entries := entries?_object members
  rw [ofJson] at entries ⊢
  have all : ((members.map fun member => (member.1, ofJson member.2)).filter (names.contains ·.1)) =
      members.map fun member => (member.1, ofJson member.2) := by
    rw [List.filter_eq_self]
    intro field listed
    obtain ⟨member, held, rfl⟩ := List.mem_map.mp listed
    have key : member.1 ∈ members.keys := List.mem_map_of_mem held
    simpa using known member.1 key
  rw [fields?, entries, Option.bind_eq_bind, Option.bind_some]
  dsimp only
  rw [all, List.map_map, if_pos]
  exact distinct

theorem fields?_single (name : String) (value : Json) :
    (ofJson (.object [(name, value)])).fields? [name] = some [(name, ofJson value)] := by
  rw [fields?_object (by simp [Members.keys]) (by simp [Members.keys])]
  rfl

end Document

namespace Fields

variable {fields : Fields} {name other : String} {document : Document} {read? : Document → Option α} {absent : α}

@[simp]
theorem required_cons_self : required ((name, document) :: fields) name read? = read? document := by
  rw [required, List.lookup_cons_self, Option.bind_some]

@[simp]
theorem required_cons_ne (different : name ≠ other) :
    required ((other, document) :: fields) name read? = fields.required name read? := by
  rw [required, List.lookup_cons, beq_false_of_ne different, required]

@[simp]
theorem orElse_nil : orElse [] name read? absent = some absent := rfl

@[simp]
theorem orElse_cons_self : orElse ((name, document) :: fields) name read? absent = read? document := by
  rw [orElse, List.lookup_cons_self]

@[simp]
theorem orElse_cons_ne (different : name ≠ other) :
    orElse ((other, document) :: fields) name read? absent = fields.orElse name read? absent := by
  rw [orElse, List.lookup_cons, beq_false_of_ne different, orElse]

/-- A field that is not among those kept is absent. -/
theorem orElse_filter (kept : String → Bool) (fields : Fields) (name : String) (read? : Document → Option α)
    (absent : α) :
    orElse (fields.filter fun field => kept field.1) name read? absent =
      if kept name then fields.orElse name read? absent else some absent := by
  induction fields with
  | nil => simp
  | cons field rest ih =>
    obtain ⟨other, document⟩ := field
    rw [List.filter_cons]
    by_cases same : name = other
    · subst same
      cases held : kept name with
      | true => simp
      | false => simpa [held] using ih
    · cases kept other <;> simp [same, ih]

end Fields

end Reading

section Writing

variable {α : Type}

theorem Dictionary.proper_toJson {dictionary : Dictionary α} {write : α → Json}
    (proper : ∀ entry ∈ dictionary.entries, (write entry.2).Proper) : (dictionary.toJson write).Proper := by
  refine Json.proper_object ?_ (List.forall_mem_map.mpr proper)
  rw [Members.keys, List.map_map]
  exact dictionary.nodup_keys

theorem Dictionary.depth_toJson_le {dictionary : Dictionary α} {write : α → Json} {bound : Nat}
    (shallow : ∀ value : α, (write value).depth ≤ bound) : (dictionary.toJson write).depth ≤ bound + 1 :=
  Json.depth_object_le_iff.mpr (List.forall_mem_map.mpr fun entry _ => shallow entry.2)

end Writing

section Within

variable {α : Type} {bound : Nat}

namespace Document

/-- Whether a document is one of a proper value that nests at most so deep. -/
def Within (bound : Nat) (document : Document) : Prop :=
  ∃ value : Json, document = .ofJson value ∧ value.Proper ∧ value.depth ≤ bound

theorem Within.items {items : List Document} (within : (Document.array items).Within (bound + 1)) :
    ∀ item ∈ items, item.Within bound := by
  obtain ⟨value, same, proper, shallow⟩ := within
  cases value with
  | array values =>
    rw [ofJson, Json.ofItems_eq_map, array.injEq] at same
    rw [Json.Proper, Json.properItems_iff] at proper
    rw [Json.depth_array_le_iff] at shallow
    intro item listed
    obtain ⟨inner, held, rfl⟩ := List.mem_map.mp (same ▸ listed)
    exact ⟨inner, rfl, proper inner held, shallow inner held⟩
  | _ => simp [ofJson] at same

theorem Within.members {members : List (Option String × Document)}
    (within : (Document.object members).Within (bound + 1)) : ∀ member ∈ members, member.2.Within bound := by
  obtain ⟨value, same, proper, shallow⟩ := within
  cases value with
  | object values =>
    rw [ofJson, Json.ofMembers_eq_map, object.injEq] at same
    rw [Json.Proper, Json.properMembers_iff] at proper
    rw [Json.depth_object_le_iff] at shallow
    intro member listed
    obtain ⟨inner, held, rfl⟩ := List.mem_map.mp (same ▸ listed)
    exact ⟨inner.2, rfl, proper.2 inner held, shallow inner held⟩
  | _ => simp [ofJson] at same

theorem Within.fields {document : Document} {names : List String} {fields : Fields}
    (within : document.Within (bound + 1)) (found : document.fields? names = some fields) :
    ∀ field ∈ fields, field.2.Within bound := by
  intro field member
  cases document with
  | object members =>
    simp only [fields?, Option.bind_eq_bind, Option.bind_eq_some_iff, Option.ite_none_right_eq_some,
      Option.some.injEq] at found
    obtain ⟨entries, entriesRead, _, rfl⟩ := found
    obtain ⟨written, listed, read⟩ := exists_of_mem_mapM entriesRead (List.mem_of_mem_filter member)
    obtain ⟨key, _, rfl⟩ := Option.map_eq_some_iff.mp read
    exact within.members written listed
  | array items =>
    simp only [fields?, Option.ite_none_right_eq_some, Option.some.injEq] at found
    obtain ⟨_, rfl⟩ := found
    exact within.items field.2 (List.of_mem_zip member).2
  | _ => cases found

theorem Within.list {read? : Document → Option α} {document : Document} {values : List α} {value : α}
    (within : document.Within (bound + 1)) (found : document.list? read? = some values) (member : value ∈ values) :
    ∃ item : Document, item.Within bound ∧ read? item = some value := by
  cases document with
  | array items =>
    obtain ⟨item, listed, read⟩ := exists_of_mem_mapM found member
    exact ⟨item, within.items item listed, read⟩
  | _ => cases found

/-- Members of free form are those of a proper value. -/
theorem Within.freeMembers {document : Document} {room : Nat} {members : Members} (within : document.Within bound)
    (found : document.members? room = some members) :
    (Json.object members).Proper ∧ (Json.object members).depth ≤ bound := by
  obtain ⟨value, rfl, proper, shallow⟩ := within
  cases value with
  | object held =>
    have same := Json.value?_ofJson proper
    rw [ofJson] at found same
    simp only [members?, Option.ite_none_right_eq_some, same, Option.bind_some, Json.members?, Option.some.injEq] at found
    obtain ⟨_, rfl⟩ := found
    exact ⟨proper, shallow⟩
  | _ => cases found

end Document

namespace Fields

variable {fields : Fields} {name : String} {read? : Document → Option α} {value : α}

theorem exists_of_lookup {document : Document} (found : fields.lookup name = some document) :
    (name, document) ∈ fields := by
  obtain ⟨before, after, rfl, _⟩ := List.lookup_eq_some_iff.mp found
  simp

theorem within_required (within : ∀ field ∈ fields, field.2.Within bound)
    (found : fields.required name read? = some value) :
    ∃ document : Document, document.Within bound ∧ read? document = some value := by
  obtain ⟨document, present, read⟩ := Option.bind_eq_some_iff.mp found
  exact ⟨document, within _ (exists_of_lookup present), read⟩

theorem within_orElse {absent : α} (within : ∀ field ∈ fields, field.2.Within bound)
    (found : fields.orElse name read? absent = some value) :
    value = absent ∨ ∃ document : Document, document.Within bound ∧ read? document = some value := by
  unfold orElse at found
  split at found
  · cases found
    exact .inl rfl
  · next document present => exact .inr ⟨document, within _ (exists_of_lookup present), found⟩

end Fields

end Within

end WorkflowSynthesis
