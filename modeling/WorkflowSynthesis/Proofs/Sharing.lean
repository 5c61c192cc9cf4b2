import Mathlib.Data.List.FinRange
import WorkflowSynthesis.Generator
import WorkflowSynthesis.Proofs.Json.Numerals
import WorkflowSynthesis.Proofs.Notes.Repetition
import WorkflowSynthesis.Proofs.Workflow.Failures
import WorkflowSynthesis.Proofs.Workflow.Identifiers
import WorkflowSynthesis.Proofs.Workflow.Probing

/-!
Jobs that share a numbered source. Generations and annotations draw identifiers from one counter in any order, so
each of them sees a part of the numbers only. All nodes that they make have identifiers of their own.
-/

namespace WorkflowSynthesis

namespace Identifiers

/-- An identifier comes of a drawn one if it is that one, or that one with a hyphen and a number. -/
def ComesOf (drawn id : String) : Prop := id = drawn ∨ ∃ number, id = Free.numbered drawn "-" number

/-- Whether an identifier comes of one of the first draws of a source. -/
def Yields (identifiers : Identifiers) (draws : Nat) (id : String) : Prop :=
  ∃ index < draws, ComesOf (identifiers index) id

variable {identifiers : Identifiers} {draws : Nat} {id stem : String}

theorem Yields.mono (yields : identifiers.Yields draws id) {more : Nat} (most : draws ≤ more) :
    identifiers.Yields more id := by
  obtain ⟨index, less, comes⟩ := yields
  exact ⟨index, Nat.lt_of_lt_of_le less most, comes⟩

theorem Yields.of_after {count : Nat} (yields : (identifiers.after count).Yields draws id) :
    identifiers.Yields (count + draws) id := by
  obtain ⟨index, less, comes⟩ := yields
  exact ⟨count + index, Nat.add_lt_add_left less count, comes⟩

/-- What comes of a numbered identifier has the digits of its number between the stem and whatever follows. -/
theorem ComesOf.spelled {index : Nat} (comes : ComesOf (sequential stem index) id) : ∃ rest,
    rest.takeWhile Char.isDigit = [] ∧
      id.toList = stem.toList ++ '-' :: ((fourPlaces (index + 1)).toList ++ rest) := by
  have hyphen : ("-" : String).toList = ['-'] := rfl
  rcases comes with rfl | ⟨number, rfl⟩
  · exact ⟨[], rfl, by simp [sequential, hyphen]⟩
  · exact ⟨'-' :: (toString number).toList, rfl, by simp [Free.numbered, sequential, hyphen]⟩

/-- No identifier comes of two numbers. -/
theorem eq_of_comesOf {first second : Nat} (one : ComesOf (sequential stem first) id)
    (other : ComesOf (sequential stem second) id) : first = second := by
  obtain ⟨rest, stops, spelled⟩ := one.spelled
  obtain ⟨others, otherStops, otherSpelled⟩ := other.spelled
  have same : '-' :: ((fourPlaces (first + 1)).toList ++ rest) = '-' :: ((fourPlaces (second + 1)).toList ++ others) :=
    List.append_cancel_left (spelled.symm.trans otherSpelled)
  have digits := congrArg (List.takeWhile Char.isDigit) (List.cons.inj same).2
  rw [Numeral.takeWhile_digits (isDigit_fourPlaces _) stops,
    Numeral.takeWhile_digits (isDigit_fourPlaces _) otherStops] at digits
  refine (proper_sequential stem).distinct ?_
  rw [sequential, sequential, String.toList_inj.mp digits]

end Identifiers

theorem Free.NumberedTo.comesOf {taken : List String} {drawn id : String} (found : NumberedTo taken drawn "-" id) :
    Identifiers.ComesOf drawn id := by
  by_cases held : drawn ∈ taken
  · obtain ⟨number, same, _⟩ := found.least held
    exact .inr ⟨number, same⟩
  · exact .inl (found.kept held)

theorem Workflow.ids_build (configuration : Configuration) (identifiers : Identifiers) (name : String)
    (steps : List Step) :
    (build configuration identifiers name steps).1.nodes.map (·.id) =
      (List.range (build configuration identifiers name steps).2).map identifiers :=
  (Draft.grown_ofSteps (drawing configuration identifiers) steps).ids_eq

namespace Attachment

/-- Whether the nodes that were stuck have identifiers of the draws that are counted. -/
def Accounted (identifiers : Identifiers) (before : List Node) (state : State) : Prop :=
  ∀ node ∈ state.nodes, node ∈ before ∨ identifiers.Yields state.drawn node.id

variable {identifiers : Identifiers} {before : List Node} {state : State}

theorem Accounted.stick (accounted : Accounted identifiers before state) (grid : Grid) (settings : NoteSettings)
    (top : Int) (note : Note) :
    Accounted identifiers before (Attachment.stick grid settings identifiers top state note) := by
  obtain ⟨last, count, drawn⟩ := Free.drawnBy_identifier (state.nodes.map (·.id)) (identifiers.after state.drawn)
  rw [stick_eq, count, Accounted, List.forall_mem_append, List.forall_mem_singleton]
  refine ⟨fun node member => (accounted node member).imp_right (·.mono (Nat.le_add_right _ _)), .inr ?_⟩
  rw [id_noteNode]
  exact ⟨state.drawn + last, Nat.add_lt_add_left (Nat.lt_succ_self last) _, drawn.numbered.comesOf⟩

theorem Accounted.foldl (accounted : Accounted identifiers before state) (grid : Grid) (settings : NoteSettings)
    (top : Int) (notes : List Note) :
    Accounted identifiers before (notes.foldl (Attachment.stick grid settings identifiers top) state) := by
  induction notes generalizing state with
  | nil => exact accounted
  | cons note rest ih =>
    rw [List.foldl_cons]
    exact ih (accounted.stick grid settings top note)

end Attachment

/-- A node with notes was there before, or its identifier comes of a draw for the notes. -/
theorem Workflow.accounted_attach (configuration : Configuration) (identifiers : Identifiers) (workflow : Workflow)
    (documentation : Documentation) : ∀ node ∈ (workflow.attach configuration identifiers documentation).1.nodes,
      node ∈ workflow.executableNodes ∨
        identifiers.Yields (workflow.attach configuration identifiers documentation).2 node.id := by
  have start : Attachment.Accounted identifiers workflow.executableNodes { nodes := workflow.executableNodes } :=
    fun _ member => .inl member
  exact start.foldl configuration.grid configuration.notes
    (Attachment.top configuration.grid workflow.executableNodes) documentation.notes

namespace Generator

/-- A generation draws for its nodes, and with documentation for its notes after that. -/
theorem generate_cases (generator : Generator) (description : String) (context : GenerationContext) :
    let drawing := generator.draw description context
    let generation := generator.generate description context
    generation.workflow = drawing.1 ∧ generation.drawn = drawing.2 ∨
      ∃ documentation,
        let attached := drawing.1.attach generator.configuration (generator.identifiers.after drawing.2) documentation
        generation.workflow = attached.1 ∧ generation.drawn = drawing.2 + attached.2 := by
  intro drawing generation
  cases documented : generator.documents with
  | false =>
    refine .inl ?_
    simp only [generation, generate, documented]
    exact ⟨rfl, rfl⟩
  | true =>
    refine .inr ⟨Documentation.ofWorkflow generator.configuration drawing.1
      (generator.documentationContext description context), ?_⟩
    simp only [generation, generate, documented]
    exact ⟨rfl, rfl⟩

variable (generator : Generator) (description : String) (context : GenerationContext)

theorem yields_draw : ∀ node ∈ (generator.draw description context).1.nodes,
    generator.identifiers.Yields (generator.draw description context).2 node.id := by
  intro node member
  have listed : node.id ∈ (generator.draw description context).1.nodes.map (·.id) := List.mem_map_of_mem member
  rw [draw, Workflow.ids_build] at listed
  obtain ⟨index, less, same⟩ := List.mem_map.mp listed
  exact ⟨index, List.mem_range.mp less, .inl same.symm⟩

theorem yields_generate : ∀ node ∈ (generator.generate description context).workflow.nodes,
    generator.identifiers.Yields (generator.generate description context).drawn node.id := by
  have own := generator.yields_draw description context
  intro node member
  rcases generator.generate_cases description context with ⟨same, count⟩ | ⟨documentation, same, count⟩
  · rw [same] at member
    rw [count]
    exact own node member
  · rw [same] at member
    rw [count]
    rcases Workflow.accounted_attach _ _ _ _ node member with old | yields
    · exact (own node (List.mem_filter.mp old).1).mono (Nat.le_add_right _ _)
    · exact yields.of_after

/-- Draws that differ make nodes that differ. -/
theorem nodup_ids_generate
    (distinct : ((List.range (generator.generate description context).drawn).map generator.identifiers).Nodup) :
    ((generator.generate description context).workflow.nodes.map (·.id)).Nodup := by
  have own : (generator.draw description context).1.nodes.map (·.id) =
      (List.range (generator.draw description context).2).map generator.identifiers := Workflow.ids_build _ _ _ _
  rcases generator.generate_cases description context with ⟨same, count⟩ | ⟨documentation, same, count⟩
  · rw [same, own, ← count]
    exact distinct
  · have unique : ((generator.draw description context).1.nodes.map (·.id)).Nodup := by
      rw [own]
      refine distinct.sublist ((List.range_sublist.mpr ?_).map _)
      rw [count]
      exact Nat.le_add_right _ _
    obtain ⟨notes, attached, stuck⟩ := Workflow.exists_attach_eq generator.configuration
      (generator.identifiers.after (generator.draw description context).2) (generator.draw description context).1
      documentation
    rw [same, attached]
    exact Workflow.nodup_ids_withNotes unique stuck

end Generator

/-- What draws identifiers: the generation of a workflow, or the annotation of one, with the documentation written about
it or any other. -/
inductive Job
  | generation (generator : Generator) (description : String) (context : GenerationContext)
  | remarking (configuration : Configuration) (workflow : Workflow) (documentation : Documentation)

namespace Job

/-- How many identifiers a job draws from a source. -/
def drawn (job : Job) (identifiers : Identifiers) : Nat :=
  match job with
  | generation generator description context => ({ generator with identifiers }.generate description context).drawn
  | remarking configuration workflow documentation => (workflow.attach configuration identifiers documentation).2

/-- The nodes that a job makes with the identifiers of a source. -/
def nodes (job : Job) (identifiers : Identifiers) : List Node :=
  match job with
  | generation generator description context =>
    ({ generator with identifiers }.generate description context).workflow.nodes
  | remarking configuration workflow documentation =>
    (workflow.attach configuration identifiers documentation).1.withRole .note

/-- The identifiers that a job draws, in order. -/
def draws (job : Job) (identifiers : Identifiers) : List String :=
  (List.range (job.drawn identifiers)).map identifiers

/-- Every node that a job makes has an identifier that comes of one of its draws. -/
theorem yields (job : Job) (identifiers : Identifiers) :
    ∀ node ∈ job.nodes identifiers, identifiers.Yields (job.drawn identifiers) node.id := by
  cases job with
  | generation generator description context =>
    exact { generator with identifiers }.yields_generate description context
  | remarking configuration workflow documentation =>
    intro node member
    obtain ⟨listed, isNote⟩ := List.mem_filter.mp member
    refine (workflow.accounted_attach configuration identifiers documentation node listed).resolve_left fun old => ?_
    have runs := (List.mem_filter.mp old).2
    simp [Node.isExecutable, of_decide_eq_true isNote, Role.isExecutable] at runs

theorem nodup_ids (job : Job) {identifiers : Identifiers} (distinct : (job.draws identifiers).Nodup) :
    ((job.nodes identifiers).map (·.id)).Nodup := by
  cases job with
  | generation generator description context =>
    exact { generator with identifiers }.nodup_ids_generate description context distinct
  | remarking configuration workflow documentation =>
    obtain ⟨notes, same, stuck⟩ := workflow.exists_attach_eq configuration identifiers documentation
    rw [nodes, same, Review.withRole_note_withNotes stuck (Workflow.isExecutable_withoutAnnotations workflow)]
    exact stuck.nodup_ids

end Job

/-- A numbered source that parties share: its counter, and who was handed which identifier, in order. -/
structure Shared (Party : Type) where
  counter : UInt64 := 0
  log : List (Party × String) := []

namespace Shared

variable {Party : Type} {stem : String} {shared : Shared Party}

/-- A party draws: the counter goes up, and the party is handed what it shows, behind the stem. -/
def draw (stem : String) (shared : Shared Party) (party : Party) : Shared Party where
  counter := shared.counter + 1
  log := shared.log ++ [(party, stem ++ "-" ++ Identifiers.fourPlaces (shared.counter + 1).toNat)]

/-- The source after parties have drawn in the given order. -/
def ofTurns (stem : String) (turns : List Party) : Shared Party := turns.foldl (draw stem) {}

/-- What a party was handed, in order. -/
def handed [DecidableEq Party] (shared : Shared Party) (party : Party) : List String :=
  (shared.log.filter (·.1 = party)).map (·.2)

/-- The counter counts what was handed out, and that is numbered from one on. -/
structure Counts (stem : String) (shared : Shared Party) : Prop where
  counter : shared.counter.toNat = shared.log.length
  numbered : shared.log.map (·.2) = (List.range shared.log.length).map (Identifiers.sequential stem)

theorem Counts.draw (counts : Counts stem shared) (room : shared.log.length + 1 < 2 ^ 64) (party : Party) :
    Counts stem (shared.draw stem party) := by
  have next : (shared.counter + 1).toNat = shared.log.length + 1 := by
    rw [UInt64.toNat_add, counts.counter]
    exact Nat.mod_eq_of_lt room
  constructor
  · simp [Shared.draw, next]
  · simp [Shared.draw, next, counts.numbered, List.range_succ, Identifiers.sequential]

theorem Counts.foldl (counts : Counts stem shared) (turns : List Party)
    (room : shared.log.length + turns.length < 2 ^ 64) :
    Counts stem (turns.foldl (Shared.draw stem) shared) := by
  induction turns generalizing shared with
  | nil => exact counts
  | cons party rest ih =>
    rw [List.length_cons] at room
    have length : (shared.draw stem party).log.length = shared.log.length + 1 := by simp [Shared.draw]
    exact ih (counts.draw (by omega) party) (by omega)

theorem counts_ofTurns {turns : List Party} (few : turns.length < 2 ^ 64) : Counts stem (ofTurns stem turns) := by
  have start : Counts stem ({} : Shared Party) := ⟨rfl, rfl⟩
  exact start.foldl turns (by simpa using few)

theorem Counts.nodup (counts : Counts stem shared) : (shared.log.map (·.2)).Nodup := by
  rw [counts.numbered]
  exact List.nodup_range.map (Identifiers.proper_sequential stem).distinct

section Parties

variable [DecidableEq Party]

theorem mem_handed {party : Party} {id : String} : id ∈ shared.handed party ↔ (party, id) ∈ shared.log := by
  simp [handed]

theorem Counts.nodup_handed (counts : Counts stem shared) (party : Party) : (shared.handed party).Nodup :=
  counts.nodup.sublist (List.filter_sublist.map _)

theorem Counts.exists_index (counts : Counts stem shared) {party : Party} {id : String}
    (member : id ∈ shared.handed party) :
    ∃ index, id = Identifiers.sequential stem index := by
  have listed : id ∈ shared.log.map (·.2) := List.mem_map_of_mem (mem_handed.mp member)
  rw [counts.numbered] at listed
  obtain ⟨index, _, same⟩ := List.mem_map.mp listed
  exact ⟨index, same.symm⟩

/-- No identifier is handed to two parties. -/
theorem Counts.party_eq (counts : Counts stem shared) {first second : Party} {id : String}
    (one : id ∈ shared.handed first) (other : id ∈ shared.handed second) : first = second := by
  have same := List.inj_on_of_nodup_map counts.nodup (mem_handed.mp one) (mem_handed.mp other) rfl
  exact congrArg Prod.fst same

end Parties

end Shared

/-- Numbered identifiers are distinct and not blank. When any number of generations and annotations share their source,
in whatever order they draw as long as the counter does not run over, none is handed what another one is handed, and all
nodes that they make have identifiers of their own. -/
theorem nodup_ids_shared (stem : String) :
    (Identifiers.sequential stem).Proper ∧
      ∀ (count : Nat) (jobs : Fin count → Job) (sources : Fin count → Identifiers) (turns : List (Fin count)),
        turns.length < 2 ^ 64 →
          (∀ job, (jobs job).draws (sources job) = (Shared.ofTurns stem turns).handed job) →
            ((List.finRange count).flatMap fun job => (jobs job).draws (sources job)).Nodup ∧
              ((List.finRange count).flatMap fun job => ((jobs job).nodes (sources job)).map (·.id)).Nodup := by
  refine ⟨Identifiers.proper_sequential stem, fun count jobs sources turns few handed => ?_⟩
  have counts : Shared.Counts stem (Shared.ofTurns stem turns) := Shared.counts_ofTurns few
  have distinct : ∀ job, ((jobs job).draws (sources job)).Nodup := fun job => handed job ▸ counts.nodup_handed job
  -- What two jobs come to share, they come to share by a draw that both were handed.
  have apart : ∀ first second, first ≠ second → ∀ {one other id : String},
      one ∈ (jobs first).draws (sources first) → other ∈ (jobs second).draws (sources second) →
        Identifiers.ComesOf one id → Identifiers.ComesOf other id → False := by
    intro first second different one other id mine yours comes alsoComes
    rw [handed] at mine yours
    obtain ⟨index, rfl⟩ := counts.exists_index mine
    obtain ⟨others, rfl⟩ := counts.exists_index yours
    obtain rfl := Identifiers.eq_of_comesOf comes alsoComes
    exact different (counts.party_eq mine yours)
  have yields : ∀ job, ∀ id ∈ ((jobs job).nodes (sources job)).map (·.id),
      ∃ drawn ∈ (jobs job).draws (sources job), Identifiers.ComesOf drawn id := by
    intro job id member
    obtain ⟨node, made, rfl⟩ := List.mem_map.mp member
    obtain ⟨index, less, comes⟩ := (jobs job).yields (sources job) node made
    exact ⟨_, List.mem_map_of_mem (List.mem_range.mpr less), comes⟩
  constructor
  · refine List.nodup_flatMap.mpr ⟨fun job _ => distinct job, (List.nodup_finRange count).imp fun different => ?_⟩
    exact fun id mine yours => apart _ _ different mine yours (.inl rfl) (.inl rfl)
  · refine List.nodup_flatMap.mpr ⟨fun job _ => (jobs job).nodup_ids (distinct job),
      (List.nodup_finRange count).imp fun different => ?_⟩
    intro id mine yours
    obtain ⟨one, drawn, comes⟩ := yields _ id mine
    obtain ⟨other, alsoDrawn, alsoComes⟩ := yields _ id yours
    exact apart _ _ different drawn alsoDrawn comes alsoComes

namespace Job

/-- A workflow with an identifier that a numbered source hands out again. -/
def saved : Workflow where
  name := "Survey"
  nodes := [
    { id := "node-0001", position := { x := 0, y := 0 }
      step := { name := "Start", nodeType := "n8n-nodes-base.manualTrigger", role := .trigger } }]
  connections := .empty
  active := false
  executionOrder := "v1"
  tags := .empty

/-- The generation of a workflow that calls a service, and two notes on a workflow that was saved before. -/
def both (configuration : Configuration) : Fin 2 → Job
  | 0 => .generation {
      configuration
      identifiers := .sequential "node"
      classify := fun _ => Workflow.calling
      documents := false } "Call" {}
  | 1 => .remarking configuration saved Workflow.remarks

/-- The notes have the first turn, and with it the identifier that the saved node has already. -/
def turns : List (Fin 2) := [1, 0, 0, 1, 0, 1]

/-- What each of the two jobs is handed when they draw in turns. -/
def shares (job : Fin 2) : Identifiers := fun index => ((Shared.ofTurns "node" turns).handed job).getD index ""

/-- The call has a trigger, an action and a handler. -/
theorem drawn_generation {configuration : Configuration} (accepted : Configuration.standard = .ok configuration)
    (identifiers : Identifiers) : (both configuration 0).drawn identifiers = 3 := by
  have follows := Configuration.follows_of_ofSettings accepted
  have requests : Plan.requests configuration Workflow.calling [] =
      [Plan.triggerRequest .manual, { key := "http_request", role := .action, intent := "call" }] := rfl
  have called : Plan.calledSteps configuration Workflow.calling .empty [] =
      List.zipWith (fun step fromText => step.withParameters fromText [])
        ([Plan.triggerRequest .manual, { key := "http_request", role := .action, intent := "call" }].map
          (Plan.stepOf .standard)) [[], []] := by
    rw [Plan.calledSteps, requests, follows.catalog_standard]
    rfl
  have count : (both configuration 0).drawn identifiers =
      (Draft.ofSteps (Workflow.drawing configuration identifiers)
        (Plan.ofClassification configuration Workflow.calling .empty []).steps).nodes.length :=
    (List.length_map _).symm
  rw [count, Draft.length_nodes_ofSteps, Plan.steps_ofClassification, called, follows.failures]
  decide

/-- The first note passes over the identifier of the node that was saved. -/
theorem drawn_remarking (configuration : Configuration) : (both configuration 1).drawn (shares 1) = 3 := by
  have nodes : (Attachment.withoutAnnotations saved).nodes = saved.nodes := rfl
  have ids : saved.nodes.map (·.id) = ["node-0001"] := rfl
  have first : Free.identifier ["node-0001"] ((shares 1).after 0) = ("node-0004", 2) := by decide +kernel
  have second : Free.identifier ["node-0001", "node-0004"] ((shares 1).after 2) = ("node-0006", 1) := by
    decide +kernel
  simp only [drawn, both, Workflow.attach, Workflow.remarks, List.foldl_cons, List.foldl_nil, nodes,
    Attachment.stick_eq, List.map_append, Attachment.id_noteNode, ids, first, second, List.map_cons, List.map_nil,
    List.cons_append, List.nil_append, Nat.zero_add]

end Job

/-- A generation and an annotation take turns, and the annotation draws an identifier that it cannot use. -/
theorem nodup_ids_shared_turns :
    ∃ configuration, Configuration.standard = .ok configuration ∧ Job.turns.length < 2 ^ 64 ∧
      (∀ job, (Job.both configuration job).draws (Job.shares job) = (Shared.ofTurns "node" Job.turns).handed job) ∧
        ((List.finRange 2).flatMap fun job =>
          ((Job.both configuration job).nodes (Job.shares job)).map (·.id)).Nodup := by
  obtain ⟨configuration, accepted⟩ := Configuration.exists_standard
  have few : Job.turns.length < 2 ^ 64 := by decide
  have handed : ∀ job, (Job.both configuration job).draws (Job.shares job) =
      (Shared.ofTurns "node" Job.turns).handed job := by
    rw [Fin.forall_fin_two]
    constructor
    · rw [Job.draws, Job.drawn_generation accepted]
      decide
    · rw [Job.draws, Job.drawn_remarking]
      decide
  exact ⟨configuration, accepted, few, handed,
    ((nodup_ids_shared "node").2 2 (Job.both configuration) Job.shares Job.turns few handed).2⟩

end WorkflowSynthesis
