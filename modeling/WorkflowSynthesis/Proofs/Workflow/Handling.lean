import WorkflowSynthesis.Proofs.Workflow.Growth

/-!
What later drafts keep of earlier ones, and where the steps of the plan are found: every one has a single node, and all
but handlers and notes have theirs before the handlers are placed.
-/

namespace WorkflowSynthesis

namespace Draft

variable {drawing : Drawing} {draft later last : Draft}

/-- What a later draft keeps of an earlier one: its edges, and its placements but for error modes. -/
structure Extends (draft later : Draft) : Prop where
  placements : draft.placements.map Placement.silent <+: later.placements.map Placement.silent
  edges : ∀ edge ∈ draft.connections.edges, edge ∈ later.connections.edges

namespace Extends

theorem refl (draft : Draft) : Extends draft draft := ⟨List.prefix_refl _, fun _ member => member⟩

theorem trans (first : Extends draft later) (second : Extends later last) : Extends draft last :=
  ⟨first.placements.trans second.placements, fun edge member => second.edges edge (first.edges edge member)⟩

theorem place (draft : Draft) (origin : Option Nat) (step : Step) (stage lane : Nat) :
    Extends draft (draft.place drawing origin step stage lane) where
  placements := by
    rw [Draft.place, List.map_append]
    exact List.prefix_append _ _
  edges _ member := member

end Extends

/-- The places in the plan of the steps that are placed, in the order in which they are. -/
theorem sources_ofSteps (drawing : Drawing) (steps : List Step) :
    (ofSteps drawing steps).placements.filterMap (·.source) = (PlanParts.ofSteps steps).order.map Prod.fst := by
  have sources : (ofSteps drawing steps).placements.filterMap (·.source) =
      (ofSteps drawing steps).planned.map Prod.fst := by
    rw [planned, List.map_filterMap]
    refine List.filterMap_congr fun placement _ => ?_
    cases placed : placement.source <;> simp [Placement.planned?, placed]
  rw [sources, planned_ofSteps, List.map_map]
  rfl

/-- A step of the plan has one node. -/
theorem nodup_sources (drawing : Drawing) (steps : List Step) :
    ((ofSteps drawing steps).placements.filterMap (·.source)).Nodup := by
  have numbered : ((steps.zipIdx.map Prod.swap).map Prod.fst).Nodup := by
    have indices : (steps.zipIdx.map Prod.swap).map Prod.fst = List.range' 0 steps.length := by
      rw [List.map_map]
      exact List.zipIdx_map_snd 0 steps
    rw [indices]
    exact List.nodup_range'
  rw [sources_ofSteps]
  refine (((PlanParts.order_perm steps).map Prod.fst).nodup_iff.mpr ?_)
  exact (List.filter_sublist.map _).nodup numbered

theorem find?_source {placements : List Placement} (distinct : (placements.filterMap (·.source)).Nodup)
    {placement : Placement} {index : Nat} (member : placement ∈ placements) (source : placement.source = some index) :
    placements.find? (·.source = some index) = some placement := by
  induction placements with
  | nil => cases member
  | cons first rest ih =>
    by_cases same : first.source = some index
    · rw [List.find?_cons_of_pos (by simpa using same)]
      rw [List.filterMap_cons_some same, List.nodup_cons] at distinct
      rcases List.mem_cons.mp member with rfl | later
      · rfl
      · exact absurd (List.mem_filterMap.mpr ⟨placement, later, source⟩) distinct.1
    · rw [List.find?_cons_of_neg (by simpa using same)]
      have later := (List.mem_cons.mp member).resolve_left fun equal => same (equal ▸ source)
      exact ih (distinct.sublist ((List.sublist_cons_self _ _).filterMap _)) later

/-- The step of the plan that a node was placed for. -/
theorem exists_step_ofSteps {steps : List Step} {placement : Placement} {index : Nat}
    (member : placement ∈ (ofSteps drawing steps).placements) (source : placement.source = some index) :
    ∃ step, steps[index]? = some step ∧ step.role ≠ .note ∧ placement.node.step.core = step.core := by
  have planned : (index, placement.node.step.core) ∈ (ofSteps drawing steps).planned :=
    List.mem_filterMap.mpr ⟨placement, member, by simp [Placement.planned?, source]⟩
  obtain ⟨step, place, notNote, same⟩ := mem_planned_ofSteps.mp planned
  exact ⟨step, place, notNote, same.symm⟩

/-- The node of a step of the plan is told by its place. -/
theorem eq_of_source {steps : List Step} {placement twin : Placement} {index : Nat}
    (member : placement ∈ (ofSteps drawing steps).placements) (other : twin ∈ (ofSteps drawing steps).placements)
    (source : placement.source = some index) (otherSource : twin.source = some index) : placement = twin := by
  have distinct := nodup_sources drawing steps
  have first := find?_source distinct member source
  exact Option.some.inj (first.symm.trans (find?_source distinct other otherSource))

/-- The draft that the handlers are added to. -/
def beforeHandlers (drawing : Drawing) (steps : List Step) : Draft :=
  ((PlanParts.ofSteps steps).triggers.drop 1).foldl
    (addTrigger drawing (Chain.ofSteps drawing (PlanParts.ofSteps steps).chain).second)
    ((Chain.ofSteps drawing (PlanParts.ofSteps steps).chain).closed drawing)

theorem ofSteps_eq (drawing : Drawing) (steps : List Step) :
    ofSteps drawing steps = (PlanParts.ofSteps steps).handlers.foldl
      (addHandler drawing (Chain.ofSteps drawing (PlanParts.ofSteps steps).chain).tail) (beforeHandlers drawing steps) :=
  rfl

theorem exists_of_planned {index : Nat} {core : Step} (listed : (index, core) ∈ draft.planned) :
    ∃ placement ∈ draft.placements, placement.source = some index := by
  obtain ⟨placement, member, found⟩ := List.mem_filterMap.mp listed
  obtain ⟨_, source, same⟩ := Option.map_eq_some_iff.mp found
  exact ⟨placement, member, (Prod.mk.inj same).1 ▸ source⟩

theorem planned_beforeHandlers (drawing : Drawing) (steps : List Step) :
    (beforeHandlers drawing steps).planned =
      ((PlanParts.ofSteps steps).chain ++ (PlanParts.ofSteps steps).triggers.drop 1).map
        fun part => (part.1, part.2.core) := by
  rw [beforeHandlers, planned_foldl fun draft part => planned_addTrigger _ part, Chain.planned_closed,
    Chain.planned_ofSteps, ← List.map_append]

/-- Everything but handlers and notes is placed before the handlers are. -/
theorem exists_beforeHandlers (drawing : Drawing) {steps : List Step} {index : Nat} {step : Step}
    (place : steps[index]? = some step) (placed : step.role ≠ .note) (other : step.role ≠ .errorHandler) :
    ∃ placement ∈ (beforeHandlers drawing steps).placements, placement.source = some index := by
  have earlier : (index, step) ∈ (PlanParts.ofSteps steps).chain ++ (PlanParts.ofSteps steps).triggers.drop 1 := by
    have ordered : (index, step) ∈ (PlanParts.ofSteps steps).order := by
      simp [(PlanParts.order_perm steps).mem_iff, List.mem_zipIdx_iff_getElem?, place, placed]
    exact (List.mem_append.mp ordered).resolve_right fun inside => other (PlanParts.mem_handlers.mp inside).2
  have known : (index, step.core) ∈ (beforeHandlers drawing steps).planned := by
    rw [planned_beforeHandlers]
    exact List.mem_map_of_mem earlier
  exact exists_of_planned known

end Draft

end WorkflowSynthesis
