import WorkflowSynthesis.Proofs.Workflow.Moves

/-!
The course of a drawing. The chain, the further triggers and the handlers are all drawn by moves, and of a plan with
one trigger all nodes but that of the trigger are hung behind others.
-/

namespace WorkflowSynthesis

namespace Draft

variable {drawing : Drawing} {steps : List Step} {draft later : Draft}

/-- What a run of hanging moves below the main row keeps. -/
structure Below (drawing : Drawing) (steps : List Step) (draft later : Draft) : Prop where
  hung : Hung drawing steps draft later
  included : draft.placements ⊆ later.placements
  row : ∀ placement ∈ later.placements, placement.lane = 0 → placement ∈ draft.placements

theorem Below.refl (draft : Draft) : Below drawing steps draft draft where
  hung := .refl
  included := List.Subset.refl _
  row _ member _ := member

section Ends

variable (distinct : Function.Injective drawing.identifiers)
include distinct

theorem addBranchEnd_eq_hang (laid : Laid drawing draft) {parent : Placement} (member : parent ∈ draft.placements)
    (output lane : Nat) :
    draft.addBranchEnd drawing parent.node output lane =
      draft.hang drawing parent output none (Step.branchEnd parent.node.name parent.node.step.outputs output) lane := by
  unfold addBranchEnd
  simp only [laid.stageOf distinct member]
  rfl

theorem hangs_addBranchEnd (laid : Laid drawing draft) {parent : Placement} (member : parent ∈ draft.placements)
    (ofPlan : parent.source.isSome) (branching : parent.node.step.isBranching = true) {output lane : Nat}
    (inside : output < parent.node.step.outputs) (free : draft.isOccupied (parent.stage + 1) lane = false) :
    Hangs drawing steps draft (draft.addBranchEnd drawing parent.node output lane) := by
  rw [addBranchEnd_eq_hang distinct laid member]
  exact .hang member ofPlan (.branchEnd branching inside) free

theorem below_addBranchEnds (laid : Laid drawing draft) {parent : Placement} (member : parent ∈ draft.placements)
    (ofPlan : parent.source.isSome) (branching : parent.node.step.isBranching = true) :
    Below drawing steps draft (draft.addBranchEnds drawing parent.node parent.stage) := by
  refine addBranchEnds_induction (Below drawing steps draft) parent.node parent.stage (.refl draft) ?_
  intro other output inside below
  obtain ⟨low, free, _⟩ := other.nextLane_spec (parent.stage + 1)
  have present := below.included member
  have otherLaid := laid.moved below.hung.moved
  constructor
  · exact below.hung.tail (hangs_addBranchEnd distinct otherLaid present ofPlan branching inside free)
  · exact fun placement listed => List.mem_append_left _ (below.included listed)
  · intro placement listed main
    rcases List.mem_append.mp listed with old | new
    · exact below.row placement old main
    · have lane : placement.lane = other.nextLane (parent.stage + 1) :=
        congrArg Placement.lane (List.mem_singleton.mp new)
      omega

end Ends

end Draft

namespace Chain

variable {drawing : Drawing} {steps : List Step} {chain : Chain}

/-- The chain has so many stages: its main row ends at the last one, and so does the chain. -/
structure Course (drawing : Drawing) (stage : Nat) (chain : Chain) : Prop where
  laid : chain.draft.Laid drawing
  row : ∀ placement ∈ chain.draft.placements, placement.lane = 0 → placement.stage < stage
  tail : ∀ node ∈ chain.tail, ∃ placement ∈ chain.draft.placements,
    placement.node = node ∧ placement.source.isSome ∧ placement.stage + 1 = stage
  second : ∀ node ∈ chain.second, ∃ placement ∈ chain.draft.placements, placement.node = node ∧ placement.stage = 1

theorem Course.empty : Course drawing 0 {} where
  laid := .empty
  row placement member := by simp at member
  tail node member := by cases member
  second node member := by cases member

/-- The main row is free behind the chain. -/
theorem Course.free {stage : Nat} (course : Course drawing stage chain) : chain.draft.isOccupied stage 0 = false := by
  rw [Draft.isOccupied_eq_false, List.mem_map]
  rintro ⟨placement, member, same⟩
  obtain ⟨rfl, main⟩ := Prod.mk.inj same
  exact Nat.lt_irrefl _ (course.row placement member main)

theorem append_eq_hang {parent : Placement} (ends : chain.tail = some parent.node) (part : Nat × Step) :
    append drawing chain (part, parent.stage + 1) = chain.draft.hang drawing parent 0 (some part.1) part.2 0 := by
  rw [append, ends]
  rfl

theorem Course.laid_append {stage : Nat} (course : Course drawing stage chain) (part : Nat × Step) :
    (append drawing chain (part, stage)).Laid drawing := by
  cases ends : chain.tail with
  | none =>
    rw [append, ends]
    exact course.laid.place _ _ course.free
  | some previous =>
    obtain ⟨parent, member, rfl, _, rfl⟩ := course.tail previous ends
    rw [append_eq_hang ends]
    exact course.laid.hang member 0 _ _ course.free

/-- The placement that continues the chain. -/
def nextPlacement (drawing : Drawing) (chain : Chain) (part : (Nat × Step) × Nat) : Placement where
  node := nextNode drawing chain part
  stage := part.2
  lane := 0
  source := some part.1.1

theorem isBranching_nextPlacement (part : (Nat × Step) × Nat) :
    (nextPlacement drawing chain part).node.step.isBranching = part.1.2.isBranching := by
  unfold Step.isBranching
  rfl

@[simp]
theorem placements_append (part : (Nat × Step) × Nat) :
    (append drawing chain part).placements = chain.draft.placements ++ [nextPlacement drawing chain part] := by
  unfold append
  split <;> rfl

section Ends

variable (distinct : Function.Injective drawing.identifiers)
include distinct

theorem below_extend {part : (Nat × Step) × Nat} (laid : (append drawing chain part).Laid drawing) :
    Draft.Below drawing steps (append drawing chain part) (extend drawing chain part).draft := by
  rw [extend_eq]
  dsimp only
  split
  · next branching =>
    have member : nextPlacement drawing chain part ∈ (append drawing chain part).placements := by simp
    have same : (nextPlacement drawing chain part).node.step.isBranching = part.1.2.isBranching :=
      isBranching_nextPlacement part
    rw [← same] at branching
    have below : Draft.Below drawing steps (append drawing chain part)
        ((append drawing chain part).addBranchEnds drawing (nextPlacement drawing chain part).node
          (nextPlacement drawing chain part).stage) :=
      Draft.below_addBranchEnds distinct laid member rfl branching
    exact below
  · exact .refl _

theorem Course.extend {stage : Nat} (course : Course drawing stage chain) (part : Nat × Step) :
    Course drawing (stage + 1) (extend drawing chain (part, stage)) := by
  have laid := course.laid_append part
  have below : Draft.Below drawing [] (append drawing chain (part, stage))
      (Chain.extend drawing chain (part, stage)).draft := below_extend distinct laid
  have new : nextPlacement drawing chain (part, stage) ∈ (Chain.extend drawing chain (part, stage)).draft.placements :=
    below.included (by simp)
  constructor
  · exact laid.moved below.hung.moved
  · intro placement member main
    have held := below.row placement member main
    rw [placements_append, List.mem_append, List.mem_singleton] at held
    rcases held with old | rfl
    · exact Nat.lt_succ_of_lt (course.row placement old main)
    · exact Nat.lt_succ_self _
  · intro node last
    rw [tail_extend, Option.mem_some_iff] at last
    exact ⟨_, new, last, rfl, rfl⟩
  · intro node found
    rw [extend_eq] at found
    dsimp only at found
    split at found
    · next second =>
      exact ⟨_, new, Option.mem_some_iff.mp found, second⟩
    · obtain ⟨placement, member, ends⟩ := course.second node found
      exact ⟨placement, below.included (by simp [member]), ends⟩

/-- A chain that has begun goes on by hanging moves. -/
theorem Course.hung_extend {part : Nat × Step} {stage : Nat} (course : Course drawing stage chain)
    (started : chain.tail.isSome) (place : steps[part.1]? = some part.2) :
    Draft.Hung drawing steps chain.draft (Chain.extend drawing chain (part, stage)).draft := by
  obtain ⟨previous, last⟩ := Option.isSome_iff_exists.mp started
  obtain ⟨parent, member, rfl, ofPlan, rfl⟩ := course.tail previous last
  have hangs : Draft.Hangs drawing steps chain.draft (append drawing chain (part, parent.stage + 1)) := by
    rw [append_eq_hang last]
    exact .hang member ofPlan (.planned place) course.free
  exact .head hangs (below_extend distinct (course.laid_append part)).hung

theorem course_ofSteps (parts : List (Nat × Step)) : Course drawing parts.length (ofSteps drawing parts) := by
  induction parts using List.reverseRecOn with
  | nil => exact .empty
  | append_singleton parts part ih =>
    rw [ofSteps_concat, List.length_append]
    exact ih.extend distinct part

/-- A chain ends at the node of its last step. -/
theorem exists_tail {parts : List (Nat × Step)} {node : Node} (last : (ofSteps drawing parts).tail = some node) :
    ∃ part, parts.getLast? = some part ∧
      ∃ placement ∈ (ofSteps drawing parts).draft.placements, placement.node = node ∧ placement.source = some part.1 := by
  rcases List.eq_nil_or_concat parts with rfl | ⟨before, part, rfl⟩
  · cases last
  · rw [List.concat_eq_append, ofSteps_concat, tail_extend, Option.some.injEq] at last
    rw [List.concat_eq_append, ofSteps_concat]
    have below : Draft.Below drawing [] _ (Chain.extend drawing (ofSteps drawing before) (part, before.length)).draft :=
      below_extend distinct ((course_ofSteps distinct before).laid_append part)
    exact ⟨part, List.getLast?_concat, nextPlacement drawing _ (part, before.length), below.included (by simp), last, rfl⟩

/-- A chain begins with its first step, which is placed at the first stage, and all else is hung behind it. -/
theorem hung_ofSteps {first : Nat × Step} {rest : List (Nat × Step)}
    (listed : ∀ part ∈ first :: rest, steps[part.1]? = some part.2) :
    Draft.Hung drawing steps (({} : Draft).place drawing (some first.1) first.2 0 0)
      (ofSteps drawing (first :: rest)).draft := by
  induction rest using List.reverseRecOn with
  | nil => exact (below_extend distinct (Course.empty.laid_append first)).hung
  | append_singleton rest part ih =>
    rw [← List.cons_append, List.forall_mem_append, List.forall_mem_singleton] at listed
    rw [← List.cons_append, ofSteps_concat]
    have started : (ofSteps drawing (first :: rest)).tail.isSome := isSome_tail_ofSteps (List.cons_ne_nil _ _)
    exact (ih listed.1).trans ((course_ofSteps distinct _).hung_extend distinct started listed.2)

theorem Course.closed {stage : Nat} (course : Course drawing stage chain) :
    Draft.Hung drawing steps chain.draft (chain.closed drawing) := by
  unfold Chain.closed
  split
  · next node last =>
    split
    · next branching =>
      obtain ⟨parent, member, rfl, ofPlan, rfl⟩ := course.tail node last
      have ways : 0 < parent.node.step.outputs := by
        simp only [Step.isBranching, Bool.and_eq_true, decide_eq_true_eq] at branching
        omega
      exact .single (Draft.hangs_addBranchEnd distinct course.laid member ofPlan branching ways course.free)
    · exact .refl
  · exact .refl

end Ends

variable (drawing) in
theorem mem_placements_closed (chain : Chain) {placement : Placement} (member : placement ∈ chain.draft.placements) :
    placement ∈ (chain.closed drawing).placements := by
  unfold closed
  split
  · split
    · exact List.mem_append_left _ member
    · exact member
  · exact member

end Chain

namespace Draft

variable {drawing : Drawing} {steps : List Step} {draft later : Draft}

theorem mem_placements_addTrigger (second : Option Node) (part : Nat × Step) {placement : Placement}
    (member : placement ∈ draft.placements) : placement ∈ (draft.addTrigger drawing second part).placements := by
  cases second <;> exact List.mem_append_left _ member

theorem moves_addTrigger {second : Option Node} {part : Nat × Step} (place : steps[part.1]? = some part.2)
    (known : ∀ node ∈ second, ∃ placement ∈ draft.placements, placement.node = node ∧ placement.stage = 1) :
    Moves drawing steps draft (draft.addTrigger drawing second part) := by
  obtain ⟨_, free, _⟩ := draft.nextLane_spec 0
  cases second with
  | none => exact .start place free
  | some node =>
    obtain ⟨target, member, rfl, isSecond⟩ := known node rfl
    exact .lead place free member isSecond

/-- What each further trigger keeps of a laid draft whose second stage is known, all of them keep. -/
theorem addTriggers_induction {kept : Draft → Prop} (laid : Laid drawing draft) {second : Option Node}
    {parts : List (Nat × Step)} (listed : ∀ part ∈ parts, steps[part.1]? = some part.2)
    (known : ∀ node ∈ second, ∃ placement ∈ draft.placements, placement.node = node ∧ placement.stage = 1)
    (start : kept draft)
    (next : ∀ (draft : Draft) (part : Nat × Step), part ∈ parts → Laid drawing draft →
      (∀ node ∈ second, ∃ placement ∈ draft.placements, placement.node = node ∧ placement.stage = 1) → kept draft →
        kept (draft.addTrigger drawing second part)) :
    kept (parts.foldl (addTrigger drawing second) draft) := by
  refine (List.foldlRecOn (motive := fun draft => Laid drawing draft ∧
    (∀ node ∈ second, ∃ placement ∈ draft.placements, placement.node = node ∧ placement.stage = 1) ∧ kept draft)
      parts _ ⟨laid, known, start⟩ ?_).2.2
  rintro draft ⟨laid, known, held⟩ part member
  refine ⟨laid.moves (moves_addTrigger (listed part member) known), fun node found => ?_,
    next draft part member laid known held⟩
  obtain ⟨target, present, ends⟩ := known node found
  exact ⟨target, mem_placements_addTrigger second part present, ends⟩

theorem moved_addTriggers (laid : Laid drawing draft) {second : Option Node} {parts : List (Nat × Step)}
    (listed : ∀ part ∈ parts, steps[part.1]? = some part.2)
    (known : ∀ node ∈ second, ∃ placement ∈ draft.placements, placement.node = node ∧ placement.stage = 1) :
    Moved drawing steps draft (parts.foldl (addTrigger drawing second) draft) :=
  addTriggers_induction laid listed known .refl fun _ part member _ known moved =>
    moved.tail (moves_addTrigger (listed part member) known)

theorem ofPlan_guarded? {tail : Option Node} {step : Step} {id : String}
    (known : ∀ node ∈ tail, OfPlan draft node.id) (found : draft.guarded? tail step = some id) : OfPlan draft id := by
  rcases Option.or_eq_some_iff.mp found with named | ⟨_, last⟩
  · obtain ⟨index, _, placed⟩ := Option.bind_eq_some_iff.mp named
    obtain ⟨placement, first, rfl⟩ := Option.map_eq_some_iff.mp placed
    have source : placement.source = some index := by simpa using List.find?_some first
    exact ⟨placement, List.mem_of_find?_eq_some first, rfl, by rw [source]; rfl⟩
  · obtain ⟨node, isLast, rfl⟩ := Option.map_eq_some_iff.mp last
    exact known node isLast

/-- Routing failures connects, and sets the error mode of a node with an error output. -/
theorem routeFailures_cases (draft : Draft) (guarded handler : String) : ∃ output,
    draft.routeFailures drawing guarded handler = draft.connect guarded output handler ∨
      (drawing.errorOutputMode ≠ "" ∧ ∃ node, draft.nodes.find? (·.id = guarded) = some node ∧
        node.step.errorOutput = true ∧ draft.routeFailures drawing guarded handler =
          { draft.connect guarded output handler with
            placements := changeFirst guarded (Step.failing drawing.errorOutputMode) draft.placements }) := by
  unfold routeFailures
  split
  · next node found =>
    split
    · next telling =>
      rw [Bool.and_eq_true, decide_eq_true_eq] at telling
      exact ⟨node.step.outputs, .inr ⟨telling.2, node, found, telling.1, rfl⟩⟩
    · exact ⟨0, .inl rfl⟩
  · exact ⟨0, .inl rfl⟩

section Ends

variable (distinct : Function.Injective drawing.identifiers)
include distinct

/-- A handler that finds a node to guard is hung behind it. -/
theorem hung_addHandler (laid : Laid drawing draft) {tail : Option Node} {part : Nat × Step} {guarded : String}
    (place : steps[part.1]? = some part.2) (known : ∀ node ∈ tail, OfPlan draft node.id)
    (found : draft.guarded? tail part.2 = some guarded) :
    Hung drawing steps draft (draft.addHandler drawing tail part) := by
  obtain ⟨parent, member, rfl, ofPlan⟩ := ofPlan_guarded? known found
  obtain ⟨_, free, _⟩ := draft.nextLane_spec (parent.stage + 1)
  have hung : ∀ output, Hangs drawing steps draft
      (draft.hang drawing parent output (some part.1) part.2 (draft.nextLane (parent.stage + 1))) := fun output =>
    .hang member ofPlan (.planned place) free
  rw [addHandler_eq found, laid.stageOf distinct member]
  have placed := laid.place (some part.1) part.2 free
  have present : parent ∈
      (draft.place drawing (some part.1) part.2 (parent.stage + 1) (draft.nextLane (parent.stage + 1))).placements :=
    List.mem_append_left _ member
  obtain ⟨output, routed | ⟨mode, node, first, telling, routed⟩⟩ := (draft.place drawing (some part.1) part.2
    (parent.stage + 1) (draft.nextLane (parent.stage + 1))).routeFailures_cases parent.node.id
      (drawing.identifiers draft.placements.length)
  · rw [routed]
    exact .single (hung output)
  · obtain ⟨twin, listed, rfl⟩ := List.mem_map.mp (List.mem_of_find?_eq_some first)
    have same : twin = parent := placed.unique distinct listed present (by simpa using List.find?_some first)
    rw [same] at telling
    rw [routed]
    exact .tail (.single (hung output)) (.fail present ofPlan telling mode)

theorem moved_addHandler (laid : Laid drawing draft) {tail : Option Node} {part : Nat × Step}
    (place : steps[part.1]? = some part.2) (known : ∀ node ∈ tail, OfPlan draft node.id) :
    Moved drawing steps draft (draft.addHandler drawing tail part) := by
  cases found : draft.guarded? tail part.2 with
  | some guarded => exact (hung_addHandler distinct laid place known found).moved
  | none =>
    rw [addHandler_none found]
    exact .single (.start place (draft.nextLane_spec 0).2.1)

/-- What each handler keeps of a laid draft in which the end of the chain is known, all of them keep. -/
theorem addHandlers_induction {kept : Draft → Prop} (laid : Laid drawing draft) {tail : Option Node}
    {parts : List (Nat × Step)} (listed : ∀ part ∈ parts, steps[part.1]? = some part.2)
    (known : ∀ node ∈ tail, OfPlan draft node.id) (start : kept draft)
    (next : ∀ (draft : Draft) (part : Nat × Step), part ∈ parts → Laid drawing draft →
      (∀ node ∈ tail, OfPlan draft node.id) → kept draft → kept (draft.addHandler drawing tail part)) :
    kept (parts.foldl (addHandler drawing tail) draft) := by
  refine (List.foldlRecOn (motive := fun draft => Laid drawing draft ∧ (∀ node ∈ tail, OfPlan draft node.id) ∧ kept draft)
    parts _ ⟨laid, known, start⟩ ?_).2.2
  rintro draft ⟨laid, known, held⟩ part member
  have moved : Moved drawing steps draft (draft.addHandler drawing tail part) :=
    moved_addHandler distinct laid (listed part member) known
  exact ⟨laid.moved moved, fun node last => (known node last).extend (.of_moved moved),
    next draft part member laid known held⟩

theorem moved_addHandlers (laid : Laid drawing draft) {tail : Option Node} {parts : List (Nat × Step)}
    (listed : ∀ part ∈ parts, steps[part.1]? = some part.2) (known : ∀ node ∈ tail, OfPlan draft node.id) :
    Moved drawing steps draft (parts.foldl (addHandler drawing tail) draft) :=
  addHandlers_induction distinct laid listed known .refl fun _ part member laid known moved =>
    moved.trans (moved_addHandler distinct laid (listed part member) known)

/-- Behind a chain that has begun all handlers are hung. -/
theorem hung_addHandlers (laid : Laid drawing draft) {tail : Option Node} {parts : List (Nat × Step)}
    (started : tail.isSome) (listed : ∀ part ∈ parts, steps[part.1]? = some part.2)
    (known : ∀ node ∈ tail, OfPlan draft node.id) :
    Hung drawing steps draft (parts.foldl (addHandler drawing tail) draft) := by
  refine addHandlers_induction distinct laid listed known .refl ?_
  intro draft part member laid known hung
  obtain ⟨guarded, found⟩ := Option.isSome_iff_exists.mp (draft.isSome_guarded? part.2 started)
  exact hung.trans (hung_addHandler distinct laid (listed part member) known found)

end Ends

section Drawn

variable (distinct : Function.Injective drawing.identifiers)
include distinct

/-- What is known of the chain of a plan before the other parts of the plan are placed. -/
theorem moved_chain {parts : List (Nat × Step)} (listed : ∀ part ∈ parts, steps[part.1]? = some part.2) :
    Moved drawing steps {} ((Chain.ofSteps drawing parts).closed drawing) ∧
      (∀ node ∈ (Chain.ofSteps drawing parts).tail, OfPlan ((Chain.ofSteps drawing parts).closed drawing) node.id) ∧
        ∀ node ∈ (Chain.ofSteps drawing parts).second,
          ∃ placement ∈ ((Chain.ofSteps drawing parts).closed drawing).placements,
            placement.node = node ∧ placement.stage = 1 := by
  cases parts with
  | nil => exact ⟨.refl, fun node last => (by cases last), fun node found => (by cases found)⟩
  | cons first rest =>
    have hung := Chain.hung_ofSteps distinct listed
    have course := Chain.course_ofSteps distinct (first :: rest)
    generalize Chain.ofSteps drawing (first :: rest) = chain at hung course ⊢
    have closed : Hung drawing steps chain.draft (chain.closed drawing) := course.closed distinct
    have start : Moves drawing steps {} (({} : Draft).place drawing (some first.1) first.2 0 0) :=
      .start (listed first List.mem_cons_self) rfl
    refine ⟨.head start (hung.moved.trans closed.moved), fun node last => ?_, fun node found => ?_⟩
    · obtain ⟨placement, member, rfl, origin, _⟩ := course.tail node last
      exact OfPlan.extend ⟨placement, member, rfl, origin⟩ (.of_moved closed.moved)
    · obtain ⟨placement, member, ends⟩ := course.second node found
      exact ⟨placement, chain.mem_placements_closed drawing member, ends⟩

omit distinct in
theorem getElem?_furtherTriggers {steps : List Step} :
    ∀ part ∈ (PlanParts.ofSteps steps).triggers.drop 1, steps[part.1]? = some part.2 := fun _ member =>
  (PlanParts.mem_triggers.mp (List.mem_of_mem_drop member)).1

omit distinct in
theorem getElem?_handlers {steps : List Step} :
    ∀ part ∈ (PlanParts.ofSteps steps).handlers, steps[part.1]? = some part.2 := fun _ member =>
  (PlanParts.mem_handlers.mp member).1

/-- What is known of a drawing before its handlers are placed. -/
theorem moved_beforeHandlers (steps : List Step) :
    Moved drawing steps {} (beforeHandlers drawing steps) ∧
      ∀ node ∈ (Chain.ofSteps drawing (PlanParts.ofSteps steps).chain).tail, OfPlan (beforeHandlers drawing steps) node.id := by
  have inChain : ∀ part ∈ (PlanParts.ofSteps steps).chain, steps[part.1]? = some part.2 := fun _ =>
    PlanParts.getElem?_of_mem_chain
  obtain ⟨chain, tail, second⟩ := moved_chain distinct inChain
  have triggers : Moved drawing steps _ (beforeHandlers drawing steps) :=
    moved_addTriggers (Laid.empty.moved chain) getElem?_furtherTriggers second
  exact ⟨chain.trans triggers, fun node last => (tail node last).extend (.of_moved triggers)⟩

/-- Every drawing is a run of moves. -/
theorem moved_ofSteps (steps : List Step) : Moved drawing steps {} (ofSteps drawing steps) := by
  obtain ⟨before, tail⟩ := moved_beforeHandlers distinct steps
  exact before.trans (moved_addHandlers distinct (Laid.empty.moved before) getElem?_handlers tail)

/-- All that is drawn after the chain is drawn by moves. -/
theorem moved_afterChain (steps : List Step) :
    Moved drawing steps (Chain.ofSteps drawing (PlanParts.ofSteps steps).chain).draft (ofSteps drawing steps) := by
  have inChain : ∀ part ∈ (PlanParts.ofSteps steps).chain, steps[part.1]? = some part.2 := fun _ =>
    PlanParts.getElem?_of_mem_chain
  obtain ⟨chain, _, second⟩ := moved_chain distinct inChain
  obtain ⟨before, tail⟩ := moved_beforeHandlers distinct steps
  have course := Chain.course_ofSteps distinct (PlanParts.ofSteps steps).chain
  have closed : Moved drawing steps _ _ := (course.closed distinct).moved
  have triggers : Moved drawing steps _ (beforeHandlers drawing steps) :=
    moved_addTriggers (Laid.empty.moved chain) getElem?_furtherTriggers second
  rw [ofSteps_eq]
  exact (closed.trans triggers).trans
    (moved_addHandlers distinct (Laid.empty.moved before) getElem?_handlers tail)

theorem laid_ofSteps (steps : List Step) : Laid drawing (ofSteps drawing steps) :=
  Laid.empty.moved (moved_ofSteps distinct steps)

/-- After its first node, a drawing with one trigger is a run of hanging moves. -/
theorem hung_ofSteps {steps : List Step} (single : (steps.filter (·.role = .trigger)).length = 1) :
    ∃ index trigger, steps[index]? = some trigger ∧ trigger.role = .trigger ∧
      Hung drawing steps (({} : Draft).place drawing (some index) trigger 0 0) (ofSteps drawing steps) := by
  have numbered := congrArg List.length (PlanParts.map_filter_numbered steps (·.role = .trigger) id)
  rw [List.length_map, List.map_id, single] at numbered
  obtain ⟨first, begins⟩ : ∃ first, (PlanParts.ofSteps steps).triggers = [first] := List.length_eq_one_iff.mp numbered
  have isTrigger : steps[first.1]? = some first.2 ∧ first.2.role = .trigger :=
    PlanParts.mem_triggers.mp (begins ▸ List.mem_singleton_self first)
  have inChain : ∀ part ∈ (PlanParts.ofSteps steps).chain, steps[part.1]? = some part.2 := fun _ =>
    PlanParts.getElem?_of_mem_chain
  obtain ⟨rest, chain⟩ : ∃ rest, (PlanParts.ofSteps steps).chain = first :: rest :=
    ⟨_, PlanParts.chain_of_triggers begins⟩
  rw [chain] at inChain
  refine ⟨first.1, first.2, isTrigger.1, isTrigger.2, ?_⟩
  unfold ofSteps
  simp only [chain, begins, List.drop_succ_cons, List.drop_nil, List.foldl_nil]
  obtain ⟨moved, tail, _⟩ := moved_chain distinct inChain
  have course := Chain.course_ofSteps distinct (first :: rest)
  have started : (Chain.ofSteps drawing (first :: rest)).tail.isSome :=
    Chain.isSome_tail_ofSteps (List.cons_ne_nil first rest)
  exact ((Chain.hung_ofSteps distinct inChain).trans (course.closed distinct)).trans
    (hung_addHandlers distinct (Laid.empty.moved moved) started getElem?_handlers tail)

end Drawn

end Draft

end WorkflowSynthesis
