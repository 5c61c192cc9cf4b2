import WorkflowSynthesis.Proofs.Workflow.Census

/-!
Which nodes are named like their steps. A number is put behind a name only if that is taken, and the names of numbered
nodes, of ends of branches and of handlers can be told by how they end. So a step whose name ends differently, and is
that of no other step, gives it to its node.
-/

namespace WorkflowSynthesis

theorem Free.name_of_not_mem {taken : List String} {base : String} (free : base ∉ taken) : name taken base = base := by
  rw [name, if_neg (by simpa using free)]

/-- Whether a name ends like those that are made of others: with a digit, or like that of the end of a branch or of
a handler. -/
def Text.isDerived (name : String) : Bool :=
  "Met".toList.isSuffixOf name.toList || "Fallback".toList.isSuffixOf name.toList ||
    name.toList.getLast?.any Char.isDigit

namespace Text

/-- Only the end counts. -/
theorem isDerived_append (text : String) {suffix : String} (derived : isDerived suffix = true) :
    isDerived (text ++ suffix) = true := by
  simp only [isDerived, Bool.or_eq_true, List.isSuffixOf_iff_suffix, String.toList_append] at derived ⊢
  rcases derived with (met | fallback) | digit
  · exact .inl (.inl (met.trans (List.suffix_append _ _)))
  · exact .inl (.inr (fallback.trans (List.suffix_append _ _)))
  · obtain ⟨last, isLast, isDigit⟩ := (Option.any_eq_true _ _).mp digit
    rw [List.getLast?_append, isLast, Option.some_or]
    exact .inr isDigit

theorem isDerived_toString (number : Nat) : isDerived (toString number) = true := by
  have digits : (toString number).toList = Nat.toDigits 10 number := by
    rw [Nat.toString_eq_repr, Nat.toList_repr]
  obtain ⟨last, isLast⟩ : ∃ last, (Nat.toDigits 10 number).getLast? = some last :=
    ⟨_, List.getLast?_eq_some_getLast Nat.toDigits_ne_nil⟩
  have isDigit := Nat.isDigit_of_mem_toDigits (by decide) (by decide) (List.mem_of_getLast? isLast)
  rw [isDerived, digits, isLast, Option.any_some, isDigit, Bool.or_true]

theorem isDerived_numbered (base separator : String) (number : Nat) :
    isDerived (Free.numbered base separator number) = true :=
  isDerived_append _ (isDerived_toString number)

theorem isDerived_branchEndName (source : String) (outputs output : Nat) :
    isDerived (Step.branchEndName source outputs output) = true := by
  unfold Step.branchEndName
  split
  · split
    · exact isDerived_append _ (by decide)
    · exact isDerived_append _ (by decide)
  · exact isDerived_append _ (isDerived_toString _)

end Text

theorem Node.Shows.name_eq {mode : String} {node : Node} {step : Step} (shows : node.Shows mode step)
    (own : Text.isDerived node.name = false) : node.name = step.name := by
  rcases shows.name with same | ⟨number, _, same⟩
  · exact same
  · rw [same, Text.isDerived_numbered] at own
    cases own

namespace Draft

variable {drawing : Drawing} {steps : List Step} {draft later : Draft}

/-- Whether every node of a step of the plan is named like this step, unless the name is taken. -/
def Plain (steps : List Step) (draft : Draft) : Prop :=
  ∀ placement ∈ draft.placements, ∀ index ∈ placement.source, ∀ step, steps[index]? = some step →
    placement.node.name = step.name ∨ step.name ∈ draft.names

namespace Plain

theorem place (plain : Plain steps draft) {origin : Option Nat} {step : Step}
    (planned : ∀ index ∈ origin, steps[index]? = some step) (stage lane : Nat) :
    Plain steps (draft.place drawing origin step stage lane) := by
  unfold Plain
  rw [names_place, Draft.place, List.forall_mem_append, List.forall_mem_singleton]
  constructor
  · exact fun placement member index source other place =>
      (plain placement member index source other place).imp_right (List.mem_append_left _)
  · intro index source other place
    obtain rfl : step = other := Option.some.inj ((planned index source).symm.trans place)
    -- Whichever node has a name that is taken, the name stays taken.
    by_cases taken : step.name ∈ draft.names
    · exact .inr (List.mem_append_left _ taken)
    · exact .inl (Free.name_of_not_mem taken)

theorem of_silent (plain : Plain steps draft) {placements : List Placement}
    (same : placements.map Placement.silent = draft.placements.map Placement.silent) :
    Plain steps { draft with placements } := by
  have names : Draft.names { draft with placements } = draft.names := by
    simpa only [Draft.names, Draft.nodes, List.map_map, Function.comp_def] using
      map_eq_of_silent same (fun placement => placement.node.name) fun _ => rfl
  unfold Plain
  rw [names]
  intro placement member index source step place
  obtain ⟨twin, held, equal⟩ := Placement.exists_silent same member
  have origin := Placement.eq_of_silent equal (·.source) fun _ => rfl
  have name := Placement.eq_of_silent equal (·.node.name) fun _ => rfl
  rw [← name]
  exact plain twin held index (origin ▸ source) step place

theorem moves (plain : Plain steps draft) (moves : Moves drawing steps draft later) : Plain steps later := by
  cases moves with
  | hangs hangs =>
    cases hangs with
    | hang _ _ offered =>
      cases offered with
      | planned place => exact plain.place (fun index source => Option.mem_some_iff.mp source ▸ place) _ _
      | branchEnd => exact plain.place (fun index source => by cases source) _ _
    | fail => exact plain.of_silent (silent_fail _ _ _)
  | start place => exact plain.place (fun index source => Option.mem_some_iff.mp source ▸ place) _ _
  | lead place => exact plain.place (fun index source => Option.mem_some_iff.mp source ▸ place) _ _

theorem moved (moved : Moved drawing steps {} later) : Plain steps later := by
  induction moved with
  | refl => exact fun placement member => by cases member
  | tail _ moves ih => exact ih.moves moves

end Plain

/-- The node of a step is named like this step if no other step is, and the name is not like those made of others. -/
theorem name_ofSteps (distinct : Function.Injective drawing.identifiers) {placement : Placement} {index : Nat}
    {step : Step} (member : placement ∈ (ofSteps drawing steps).placements) (source : placement.source = some index)
    (place : steps[index]? = some step) (own : Text.isDerived step.name = false)
    (unique : ∀ (other : Nat) (otherStep : Step), steps[other]? = some otherStep → otherStep.name = step.name →
      other = index) : placement.node.name = step.name := by
  have traced := traced_ofSteps distinct steps
  rcases Plain.moved (moved_ofSteps distinct steps) placement member index source step place with same | taken
  · exact same
  obtain ⟨node, listed, sameName⟩ := List.mem_map.mp taken
  obtain ⟨twin, held, rfl⟩ := List.mem_map.mp listed
  have twinOwn : Text.isDerived twin.node.name = false := sameName ▸ own
  cases origin : twin.source with
  | none =>
    obtain ⟨parent, _, _, output, _, shows, _⟩ := traced.ends twin held origin
    have derived : Text.isDerived twin.node.name = true := shows.name_eq twinOwn ▸ Text.isDerived_branchEndName _ _ _
    rw [derived] at twinOwn
    cases twinOwn
  | some other =>
    obtain ⟨otherStep, otherPlace, shows⟩ := traced.planned twin held other origin
    obtain rfl := unique other otherStep otherPlace ((shows.name_eq twinOwn).symm.trans sameName)
    rw [eq_of_source member held source origin, sameName]

end Draft

end WorkflowSynthesis
