import WorkflowSynthesis.Proofs.Parameters

/-!
Parameters laid over others, along paths of keys. Where both have a value the upper one stands, and two objects are
laid over each other; where the upper ones lack a key, all below it stands. So to lay parameters over others once more
changes nothing.
-/

namespace WorkflowSynthesis

namespace Members

variable {members : Members} {key other : String} {value : Json}

theorem value?_cons (first : String) (held : Json) (rest : Members) :
    value? ((first, held) :: rest) key = if key = first then some held else value? rest key := by
  rw [value?, List.lookup_cons]
  by_cases same : key = first
  · simp [same]
  · simp [beq_false_of_ne same, same, value?]

theorem value?_append (first second : Members) :
    value? (first ++ second) key = (first.value? key).or (second.value? key) := List.lookup_append

section Optional

variable {α : Type} (field : String) (spell : α → Json) (value : Option α)

/-- A field for a value, if there is one. -/
def ofOption : Members := value.toList.map fun value => (field, spell value)

theorem value?_ofOption : (ofOption field spell value).value? key = if key = field then value.map spell else none := by
  cases value with
  | none => exact (ite_self none).symm
  | some value => exact value?_cons field (spell value) []

theorem keys_ofOption : (ofOption field spell value).keys.Sublist [field] := by
  cases value with
  | none => exact List.nil_sublist _
  | some value => exact .refl _

end Optional

theorem value?_put : (put key value members).value? other = if other = key then some value else members.value? other := by
  induction members with
  | nil => exact value?_cons key value []
  | cons member rest ih =>
    obtain ⟨first, held⟩ := member
    unfold put
    split
    · next same =>
      rw [value?_cons, value?_cons, same]
      split <;> rfl
    · next different =>
      rw [value?_cons, value?_cons, ih]
      split
      · next found => rw [if_neg fun same => different (same.symm.trans found)]
      · rfl

theorem put_of_value? (found : members.value? key = some value) : put key value members = members := by
  induction members with
  | nil => cases found
  | cons member rest ih =>
    obtain ⟨first, held⟩ := member
    rw [value?_cons] at found
    unfold put
    split at found
    · next same =>
      cases found
      rw [if_pos same, same]
    · next different => rw [if_neg different, ih found]

theorem value?_eq_none_iff : members.value? key = none ↔ key ∉ members.keys := by
  induction members with
  | nil => simp [value?, keys]
  | cons member rest ih =>
    obtain ⟨first, held⟩ := member
    rw [value?_cons, keys, List.map_cons, List.mem_cons, not_or, ← keys, ← ih]
    by_cases same : key = first <;> simp [same]

theorem value?_of_mem (distinct : members.keys.Nodup) {member : String × Json} (listed : member ∈ members) :
    members.value? member.1 = some member.2 := by
  induction members with
  | nil => cases listed
  | cons first rest ih =>
    obtain ⟨fresh, distinct⟩ := List.nodup_cons.mp distinct
    rw [value?_cons]
    rcases List.mem_cons.mp listed with rfl | later
    · rw [if_pos rfl]
    · have different : member.1 ≠ first.1 := fun same => fresh (same ▸ List.mem_map_of_mem later)
      rw [if_neg different, ih distinct later]

end Members

namespace Json

/-- What a value has under a key, if it is an object. -/
def member? (value : Json) (key : String) : Option Json := value.members?.bind (Members.value? · key)

/-- The value to which keys lead from object to object. -/
def follow? : Json → List String → Option Json
  | value, [] => some value
  | value, key :: path => (value.member? key).bind (follow? · path)

theorem exists_of_member? {value held : Json} {key : String} (found : value.member? key = some held) :
    ∃ members : Members, value = .object members ∧ members.value? key = some held := by
  obtain ⟨members, isObject, listed⟩ := Option.bind_eq_some_iff.mp found
  cases value <;> cases isObject
  exact ⟨members, rfl, listed⟩

theorem proper_of_mem {members : Members} {key : String} {held : Json} (proper : (object members).Proper)
    (found : members.value? key = some held) : held.Proper := by
  obtain ⟨before, after, rfl, _⟩ := List.lookup_eq_some_iff.mp found
  exact properMembers_iff.mp proper.2 (key, held) (by simp)

theorem proper_of_follow? {value found : Json} {path : List String} (proper : value.Proper)
    (leads : value.follow? path = some found) : found.Proper := by
  induction path generalizing value with
  | nil =>
    cases leads
    exact proper
  | cons key path ih =>
    obtain ⟨held, first, later⟩ := Option.bind_eq_some_iff.mp leads
    obtain ⟨members, rfl, listed⟩ := exists_of_member? first
    exact ih (proper_of_mem proper listed) later

end Json

namespace Parameters

variable {base : Members} {overlay : List (String × Json)}

theorem keys_merge (distinct : (Members.keys overlay).Nodup) :
    (merge base overlay).keys = base.keys ++ (Members.keys overlay).filter (· ∉ base.keys) := by
  induction overlay generalizing base with
  | nil => simp [merge, Members.keys]
  | cons member rest ih =>
    obtain ⟨key, value⟩ := member
    obtain ⟨fresh, distinct⟩ := List.nodup_cons.mp distinct
    have listed : Members.keys ((key, value) :: rest) = key :: Members.keys rest := rfl
    rw [merge, ih distinct, Members.keys_put, listed, List.filter_cons]
    split
    · next held => rw [if_neg (by simpa using held)]
    · next added =>
      have others : (Members.keys rest).filter (· ∉ base.keys ++ [key]) = (Members.keys rest).filter (· ∉ base.keys) := by
        refine List.filter_congr fun other listed => ?_
        have different : other ≠ key := fun same => fresh (same ▸ listed)
        simp [different]
      rw [if_pos (by simpa using added), others, List.append_assoc, List.singleton_append]

theorem value?_merge (distinct : (Members.keys overlay).Nodup) (key : String) :
    (merge base overlay).value? key =
      ((Members.value? overlay key).map (mergeValue (base.value? key))).or (base.value? key) := by
  induction overlay generalizing base with
  | nil => rfl
  | cons member rest ih =>
    obtain ⟨first, value⟩ := member
    obtain ⟨fresh, distinct⟩ := List.nodup_cons.mp distinct
    rw [merge, ih distinct, Members.value?_put, Members.value?_cons]
    split
    · next same =>
      have absent : Members.value? rest first = none := Members.value?_eq_none_iff.mpr fresh
      rw [same, absent]
      rfl
    · rfl

theorem mergeValue_none (value : Json) : mergeValue none value = value := by
  cases value <;> rfl

theorem mergeValue_of_leaf {value : Json} (isLeaf : value.members? = none) (held : Option Json) :
    mergeValue held value = value := by
  cases value with
  | object members => cases isLeaf
  | _ => rfl

theorem merge_fresh (distinct : (Members.keys (base ++ overlay)).Nodup) : merge base overlay = base ++ overlay := by
  induction overlay generalizing base with
  | nil => rw [merge, List.append_nil]
  | cons member rest ih =>
    obtain ⟨key, value⟩ := member
    have fresh : key ∉ base.keys := by
      rw [Members.keys, List.map_append, List.nodup_append] at distinct
      exact fun held => distinct.2.2 key held key List.mem_cons_self rfl
    rw [merge, Members.value?_eq_none_iff.mpr fresh, mergeValue_none, Members.put_fresh fresh,
      ih (by simpa using distinct), List.append_assoc, List.singleton_append]

/-- An object is laid over the members of what is below, or over none. -/
theorem mergeValue_object (held : Option Json) {incoming : Members} (distinct : incoming.keys.Nodup) :
    mergeValue held (.object incoming) = .object (merge ((held.bind Json.members?).getD []) incoming) := by
  have alone : merge [] incoming = incoming := merge_fresh distinct
  rcases held with _ | below
  · rw [mergeValue_none, Option.bind_none, Option.getD_none, alone]
  · cases below with
    | object existing => rfl
    | _ => exact congrArg Json.object alone.symm

theorem member?_mergeValue {held : Option Json} {incoming : Members} (distinct : incoming.keys.Nodup) (key : String) :
    (mergeValue held (.object incoming)).member? key =
      ((incoming.value? key).map (mergeValue (held.bind (·.member? key)))).or (held.bind (·.member? key)) := by
  have below : ((held.bind Json.members?).getD []).value? key = held.bind (·.member? key) := by
    rcases held with _ | value
    · rfl
    · cases value <;> rfl
  rw [mergeValue_object held distinct, Json.member?, Json.members?, Option.bind_some, value?_merge distinct, below]

/-- Where the upper value leads along a path, what it has there is laid over what the lower one has there. -/
theorem follow?_mergeValue {held : Option Json} {value found : Json} {path : List String} (proper : value.Proper)
    (leads : value.follow? path = some found) :
    (mergeValue held value).follow? path = some (mergeValue (held.bind (·.follow? path)) found) := by
  induction path generalizing held value with
  | nil =>
    cases leads
    cases held <;> rfl
  | cons key path ih =>
    obtain ⟨upper, first, later⟩ := Option.bind_eq_some_iff.mp leads
    obtain ⟨incoming, rfl, listed⟩ := Json.exists_of_member? first
    rw [Json.follow?, member?_mergeValue proper.1, listed, Option.map_some, Option.some_or, Option.bind_some,
      ih (Json.proper_of_mem proper listed) later, Option.bind_assoc]
    rfl

/-- Where an object that the upper value leads to lacks a key, everything below it stands. -/
theorem follow?_mergeValue_of_absent {held : Option Json} {value : Json} {members : Members} {before after : List String}
    {key : String} (proper : value.Proper) (leads : value.follow? before = some (.object members))
    (absent : members.value? key = none) :
    (mergeValue held value).follow? (before ++ key :: after) = held.bind (·.follow? (before ++ key :: after)) := by
  induction before generalizing held value with
  | nil =>
    cases leads
    rw [List.nil_append, Json.follow?, member?_mergeValue proper.1, absent, Option.map_none, Option.none_or,
      Option.bind_assoc]
    rfl
  | cons first before ih =>
    obtain ⟨upper, found, later⟩ := Option.bind_eq_some_iff.mp leads
    obtain ⟨incoming, rfl, listed⟩ := Json.exists_of_member? found
    rw [List.cons_append, Json.follow?, member?_mergeValue proper.1, listed, Option.map_some, Option.some_or,
      Option.bind_some, ih (Json.proper_of_mem proper listed) later, Option.bind_assoc]
    rfl

theorem merge_eq_self
    (settled : ∀ member ∈ overlay, ∃ value, base.value? member.1 = some value ∧ mergeValue (some value) member.2 = value) :
    merge base overlay = base := by
  induction overlay with
  | nil => rfl
  | cons member rest ih =>
    obtain ⟨⟨value, held, same⟩, settled⟩ := List.forall_mem_cons.mp settled
    rw [merge, held, same, Members.put_of_value? held, ih settled]

theorem merge_merge_of_settled (distinct : (Members.keys overlay).Nodup)
    (settled : ∀ member ∈ overlay, ∀ held,
      mergeValue (some (mergeValue held member.2)) member.2 = mergeValue held member.2) :
    merge (merge base overlay) overlay = merge base overlay := by
  refine merge_eq_self fun member listed => ⟨mergeValue (base.value? member.1) member.2, ?_, settled member listed _⟩
  rw [value?_merge distinct, Members.value?_of_mem distinct listed]
  rfl

mutual

theorem mergeValue_mergeValue {value : Json} (proper : value.Proper) (held : Option Json) :
    mergeValue (some (mergeValue held value)) value = mergeValue held value := by
  match value with
  | .null | .bool _ | .number _ | .text _ | .array _ => rfl
  | .object incoming =>
    rw [mergeValue_object held proper.1]
    exact congrArg Json.object (merge_merge_of_settled proper.1 (settled_of_properMembers proper.2))

theorem settled_of_properMembers {members : List (String × Json)} (proper : Json.ProperMembers members) :
    ∀ member ∈ members, ∀ held, mergeValue (some (mergeValue held member.2)) member.2 = mergeValue held member.2 := by
  match members with
  | [] => exact fun _ member => absurd member List.not_mem_nil
  | (_, value) :: rest =>
    exact List.forall_mem_cons.mpr ⟨mergeValue_mergeValue proper.1, settled_of_properMembers proper.2⟩

end

/-- What parameters hold that come of laying an overlay over a base. -/
structure Overlaid (base overlay merged : Members) : Prop where
  /-- Of two objects at one place the keys of the lower one come first, then the further keys of the upper one. -/
  keys : ∀ (path : List String) {lower upper : Members}, (Json.object base).follow? path = some (.object lower) →
    (Json.object overlay).follow? path = some (.object upper) →
      ∃ both : Members, (Json.object merged).follow? path = some (.object both) ∧
        both.keys = lower.keys ++ upper.keys.filter (· ∉ lower.keys)
  /-- What the overlay has and is no object stands. -/
  upper : ∀ (path : List String) {leaf : Json}, leaf.members? = none →
    (Json.object overlay).follow? path = some leaf → (Json.object merged).follow? path = some leaf
  /-- What the base has stands if on the way to it an object of the overlay lacks a key. -/
  lower : ∀ (before : List String) (key : String) (after : List String) {members : Members} {value : Json},
    (Json.object overlay).follow? before = some (.object members) → members.value? key = none →
      (Json.object base).follow? (before ++ key :: after) = some value →
        (Json.object merged).follow? (before ++ key :: after) = some value

/-- Parameters of which each has its key once, laid over any others: path by path it is told what comes of them. To lay
them over once more changes nothing, and neither does it to lay none over some or some over none. -/
theorem overlaid_merge (base : Members) {overlay : Members} (proper : (Json.object overlay).Proper) :
    Overlaid base overlay (merge base overlay) ∧ merge (merge base overlay) overlay = merge base overlay ∧
      merge base [] = base ∧ merge [] overlay = overlay := by
  have settled := settled_of_properMembers proper.2
  refine ⟨⟨fun path lower upper below above => ?_, fun path leaf isLeaf above => ?_,
    fun before key after members value above absent below => ?_⟩, merge_merge_of_settled proper.1 settled, rfl,
    merge_fresh proper.1⟩
  · have met : (Json.object (merge base overlay)).follow? path = some (.object (merge lower upper)) := by
      rw [← mergeValue, follow?_mergeValue proper above, Option.bind_some, below]
      rfl
    exact ⟨_, met, keys_merge (Json.proper_of_follow? proper above).1⟩
  · rw [← mergeValue, follow?_mergeValue proper above, mergeValue_of_leaf isLeaf]
  · rw [← mergeValue, follow?_mergeValue_of_absent proper above absent, Option.bind_some, below]

/-- What is set for a request, and what shall be different. -/
def request : Members := [("method", .text "GET"),
  ("options", .object [("timeout", .nat 1000), ("proxy", .object [("host", .text "localhost")])])]

def patience : Members := [("retry", .bool true), ("options", .object [("timeout", .nat 5000), ("redirect", .null)])]

/-- The keys of the options are those of the request and then what is new; the timeout is that of the overlay, and the
proxy, of which the overlay says nothing, stays as it is. -/
theorem overlaid_merge_patience : (Json.object patience).Proper ∧
    let merged := merge request patience
    (∃ options : Members, (Json.object merged).follow? ["options"] = some (.object options) ∧
      options.keys = ["timeout", "proxy", "redirect"]) ∧
    (Json.object merged).follow? ["options", "timeout"] = some (.nat 5000) ∧
    (Json.object merged).follow? ["options", "proxy", "host"] = some (.text "localhost") ∧
    merge merged patience = merged := by
  have proper : (Json.object patience).Proper := by decide
  obtain ⟨overlaid, again, _⟩ := overlaid_merge request proper
  obtain ⟨options, found, keys⟩ := overlaid.keys ["options"] rfl rfl
  exact ⟨proper, ⟨options, found, keys⟩, overlaid.upper ["options", "timeout"] rfl rfl,
    overlaid.lower ["options"] "proxy" ["host"] rfl rfl rfl, again⟩

end Parameters

end WorkflowSynthesis
