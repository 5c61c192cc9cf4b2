import WorkflowSynthesis.Proofs.Parameters
import WorkflowSynthesis.Proofs.Plan.Requests
import WorkflowSynthesis.Proofs.Workflow.Names

/-!
Plans under the standard settings, without services of the caller. A description can ask for few keys only, each
of them once, and every step that it gets has a name, a node type, credentials and parameters that the review
accepts.
-/

namespace WorkflowSynthesis

/-- What the review asks of a step under the standard settings, whatever its parameters. -/
structure Step.Sound (step : Step) : Prop where
  nameable : step.Nameable
  typed : Text.isBlankText step.nodeType = false
  credentials : ∀ credential ∈ step.credentials.entries,
    credential.1 ∈ ({} : Settings).recognizedCredentials ∧ Text.isBlankText credential.2 = false

-- The characters of a name are looked through much faster than the pattern is searched for.
instance (step : Step) : Decidable step.Nameable :=
  decidable_of_iff ((step.name.toList.head?.any Pattern.capitals.contains = true ∧
      step.name.toList.tail.all Pattern.nameChars.contains = true) ∧ step.name.length ≤ 40 ∧
    (step.isBranching = true → step.name.length ≤ 20 ∧ step.outputs ≤ 9))
    ⟨fun ⟨chars, short, branching⟩ => ⟨Pattern.matchesText_standardName_iff.mpr chars, short, branching⟩,
      fun ⟨matched, short, branching⟩ => ⟨Pattern.matchesText_standardName_iff.mp matched, short, branching⟩⟩

instance (step : Step) : Decidable step.Sound :=
  decidable_of_iff (step.Nameable ∧ Text.isBlankText step.nodeType = false ∧
    ∀ credential ∈ step.credentials.entries,
      credential.1 ∈ ({} : Settings).recognizedCredentials ∧ Text.isBlankText credential.2 = false)
    ⟨fun ⟨nameable, typed, credentials⟩ => ⟨nameable, typed, credentials⟩,
      fun ⟨nameable, typed, credentials⟩ => ⟨nameable, typed, credentials⟩⟩

/-- The type that hands everything on is visible, is that of an action, and no action of it may fail. -/
theorem Step.passThrough_standard : Text.isBlankText passThroughType = false ∧
    Role.ofNodeType passThroughType = .action ∧ Catalog.standard.mayFailType passThroughType = false := by
  decide

namespace Plan

section Tables

/-- The keys that a description can ask for under the standard settings. -/
def standardKeys : Role → List String
  | .trigger => Trigger.all.map Trigger.key
  | .action => ["send_email", "http_request", "database", "slack", "discord", "openai", "code", "send", "create", "update",
      "delete", "process"]
  | .condition => ["condition", "filter", "switch"]
  | .dataOp => ({} : VocabularySettings).dataOpKeywords
  | _ => []

def placedRoles : List Role := [.trigger, .action, .condition, .dataOp]

/-- The step for a key, asked for in a role, under the standard settings. -/
def standardStep (role : Role) (key : String) : Step := stepOf .standard { key, role, intent := "" }

/-- All that a step may place: its nodes, and the handler of its failures. -/
def share (step : Step) : Nat := step.span + if step.mayFail then 1 else 0

theorem stepOf_standard (request : Request) :
    stepOf .standard request = { standardStep request.role request.key with intent := request.intent } := by
  unfold standardStep stepOf
  split <;> simp_all

/-- Whatever is asked for, its defaults nest hardly and its step has at most four ways out. -/
theorem small_stepOf (request : Request) :
    (Json.object (stepOf .standard request).parameters).Fits 4 ∧ share (stepOf .standard request) ≤ 4 := by
  have entries : ∀ entry ∈ Catalog.standard.entries.entries, (Json.object entry.2.defaultParameters).Fits 4 ∧
      (max 1 entry.2.outputs.toNat + if entry.2.mayFail then 1 else 0) ≤ 4 := by decide
  have held : ∃ entry ∈ Catalog.standard.entries.entries,
      (stepOf .standard request).parameters = entry.2.defaultParameters ∧
      (stepOf .standard request).outputs = entry.2.outputs.toNat ∧
      (stepOf .standard request).mayFail = entry.2.mayFail := by
    unfold stepOf
    split
    · next entry found => exact ⟨_, Dictionary.get?_eq_some_iff.mp found, rfl, rfl, rfl⟩
    · exact ⟨_, Dictionary.get?_eq_some_iff.mp Catalog.get?_fallback_standard, rfl, rfl, rfl⟩
  obtain ⟨entry, listed, parameters, outputs, mayFail⟩ := held
  obtain ⟨fits, few⟩ := entries entry listed
  rw [← parameters, ← outputs, ← mayFail] at *
  refine ⟨fits, le_trans ?_ few⟩
  unfold share Step.span
  split <;> omega

/-- The words of the standard vocabulary lead to keys that a description can ask for. -/
theorem known_standard :
    (∀ entry ∈ ({} : VocabularySettings).services.entries, entry.2 ∈ standardKeys .action) ∧
    (∀ verb ∈ ({} : VocabularySettings).actionKeywords, verb ∉ ({} : VocabularySettings).dataOpKeywords →
      (({} : VocabularySettings).verbDefaults.get? verb).getD verb ∈ standardKeys .action) ∧
    (∀ primary ∈ ({} : VocabularySettings).defaultAction :: ({} : VocabularySettings).actionPriority,
      (if (Catalog.standard.get? ((({} : VocabularySettings).verbDefaults.get? primary).getD primary)).any
          (·.role ≠ .action) then ({} : VocabularySettings).defaultAction
        else (({} : VocabularySettings).verbDefaults.get? primary).getD primary) ∈ standardKeys .action) ∧
    ∀ keyword ∈ ({} : VocabularySettings).conditionKeywords,
      (({} : VocabularySettings).conditionKeys.get? keyword).getD "condition" ∈ standardKeys .condition := by
  decide

theorem sum_share_standardStep :
    (placedRoles.map fun role => ((standardKeys role).map fun key => share (standardStep role key)).sum).sum = 36 := by
  decide

theorem sound_standardStep : ∀ role ∈ placedRoles, ∀ key ∈ standardKeys role,
    (standardStep role key).Sound ∧ (standardStep role key).name.length ≤ 31 ∧
      (Catalog.standard.mayFailType (standardStep role key).nodeType = true → (standardStep role key).mayFail = true) := by
  decide

end Tables

section Keys

/-- Requests of one role, none twice, for keys that a description can ask for. -/
structure Asked (role : Role) (requests : List Request) : Prop where
  distinct : (Request.keys requests).Nodup
  known : ∀ request ∈ requests, request.role = role ∧ request.key ∈ standardKeys role

variable {configuration : Configuration} {classification : Classification}

theorem asked_triggerRequest (trigger : Trigger) : Asked .trigger [triggerRequest trigger] where
  distinct := List.nodup_singleton _
  known request member := by
    rw [List.mem_singleton] at member
    subst member
    exact ⟨rfl, List.mem_map_of_mem trigger.mem_all⟩

variable (follows : configuration.Follows {}) (reads : configuration.vocabulary.Reads classification)
include follows reads

theorem asked_mentioned : Asked .action (mentioned configuration classification) := by
  refine ⟨Request.nodup_keys_fresh _ _, fun request member => ?_⟩
  obtain ⟨mention, listed, made⟩ := List.mem_filterMap.mp (Request.mem_fresh member).1
  unfold mentionRequest? at made
  split at made
  · next key service =>
    cases made
    obtain ⟨word, found⟩ := reads.services mention listed key service
    rw [Vocabulary.serviceKey?, follows.vocabulary.standard.services, Dictionary.get?_eq_some_iff] at found
    exact ⟨rfl, known_standard.1 _ found⟩
  · split at made
    · cases made
    · next isNoDataOp =>
      cases made
      have isAction := reads.verbs mention listed
      simp only [Vocabulary.isKeyword, Vocabulary.keywords, follows.vocabulary.standard.actionKeywords,
        follows.vocabulary.standard.dataOpKeywords, List.contains_iff_mem] at isAction isNoDataOp
      rw [Vocabulary.verbDefault?, follows.vocabulary.standard.verbDefaults]
      exact ⟨rfl, known_standard.2.1 _ isAction isNoDataOp⟩

theorem asked_defaultRequest : Asked .action [defaultRequest configuration classification.primaryAction] := by
  refine ⟨List.nodup_singleton _, fun request member => ?_⟩
  rw [List.mem_singleton] at member
  subst member
  refine ⟨rfl, ?_⟩
  have primary := reads.primary
  rw [follows.vocabulary.standard.defaultAction, follows.vocabulary.standard.actionPriority] at primary
  rw [defaultRequest, Vocabulary.verbDefault?, follows.vocabulary.standard.verbDefaults, follows.catalog_standard,
    follows.vocabulary.standard.defaultAction]
  exact known_standard.2.2.1 _ primary

/-- What a description asks for as actions, and then what the services of the caller do. -/
theorem exists_actions (services : List String) :
    ∃ asked, actions configuration classification services = asked ++ called configuration classification services ∧
      Asked .action asked := by
  cases named : namedActions configuration classification services with
  | nil =>
    refine ⟨_, ?_, asked_defaultRequest follows reads⟩
    rw [namedActions_eq, List.append_eq_nil_iff] at named
    simp [actions, namedActions_eq, named]
  | cons request rest =>
    refine ⟨_, ?_, asked_mentioned follows reads⟩
    rw [actions, named, ← namedActions_eq, named]

theorem asked_actions : Asked .action (actions configuration classification []) := by
  obtain ⟨asked, same, isAsked⟩ := exists_actions follows reads []
  rw [same, called, List.filterMap_nil, Request.fresh, List.append_nil]
  exact isAsked

theorem asked_conditionRequests (services : List String) :
    Asked .condition (conditionRequests configuration classification services) := by
  refine ⟨Request.nodup_keys_fresh _ _, fun request member => ?_⟩
  obtain ⟨keyword, listed, rfl⟩ := List.mem_map.mp (Request.mem_fresh member).1
  have isCondition := reads.conditions keyword listed
  simp only [Vocabulary.isKeyword, Vocabulary.keywords, follows.vocabulary.standard.conditionKeywords,
    List.contains_iff_mem] at isCondition
  rw [conditionRequest, Vocabulary.conditionKey, follows.vocabulary.standard.conditionKeys]
  exact ⟨rfl, known_standard.2.2.2 _ isCondition⟩

theorem asked_dataOpRequests (services : List String) :
    Asked .dataOp (dataOpRequests configuration classification services) := by
  refine ⟨Request.nodup_keys_fresh _ _, fun request member => ?_⟩
  obtain ⟨keyword, listed, rfl⟩ := List.mem_map.mp (Request.mem_fresh member).1
  have isDataOp := reads.dataOps keyword listed
  simp only [Vocabulary.isKeyword, Vocabulary.keywords, follows.vocabulary.standard.dataOpKeywords,
    List.contains_iff_mem] at isDataOp
  exact ⟨rfl, isDataOp⟩

end Keys

section Steps

/-- What is asked for comes of different keys that can be asked for. -/
theorem Asked.subperm {α : Type} (view : Step → α)
    (blind : ∀ (step : Step) (intent : String), view { step with intent } = view step) {role : Role}
    {requests : List Request} (asked : Asked role requests) :
    (requests.map fun request => view (stepOf .standard request)).Subperm
      ((standardKeys role).map fun key => view (standardStep role key)) := by
  have byKey : (requests.map fun request => view (stepOf .standard request)) =
      (Request.keys requests).map fun key => view (standardStep role key) := by
    rw [Request.keys, List.map_map]
    refine List.map_congr_left fun request member => ?_
    rw [stepOf_standard, blind, (asked.known request member).1, Function.comp_apply]
  have included : Request.keys requests ⊆ standardKeys role := by
    intro key member
    obtain ⟨request, listed, rfl⟩ := List.mem_map.mp member
    exact (asked.known request listed).2
  obtain ⟨keys, perm, sublist⟩ := asked.distinct.subperm included
  rw [byKey]
  exact ⟨_, perm.map _, sublist.map _⟩

theorem Asked.share_le {role : Role} {requests : List Request} (asked : Asked role requests) :
    (requests.map fun request => share (stepOf .standard request)).sum ≤
      ((standardKeys role).map fun key => share (standardStep role key)).sum := by
  obtain ⟨shares, perm, sublist⟩ := asked.subperm share fun _ _ => rfl
  rw [← perm.sum_eq]
  exact sublist.sum_le_sum fun _ _ => Nat.zero_le _

end Steps

section Called

variable {configuration : Configuration} {classification : Classification} {services : List String}
  {overrides : Overrides}

/-- A step comes of a request, with parameters from the description and from the caller. -/
theorem exists_request {step : Step} (member : step ∈ calledSteps configuration classification overrides services) :
    ∃ request ∈ requests configuration classification services,
      ∃ fromText ∈ textParameters classification
          ((requests configuration classification services).map (stepOf configuration.catalog)),
        step = (stepOf configuration.catalog request).withParameters fromText
          ((overrides.get? (stepOf configuration.catalog request).key).getD []) := by
  unfold calledSteps at member
  dsimp only at member
  rw [← List.map_uncurry_zip_eq_zipWith] at member
  obtain ⟨⟨plain, fromText⟩, zipped, rfl⟩ := List.mem_map.mp member
  obtain ⟨isStep, isText⟩ := List.of_mem_zip zipped
  obtain ⟨request, listed, rfl⟩ := List.mem_map.mp isStep
  exact ⟨request, listed, fromText, isText, rfl⟩

section Texts

theorem mem_deal {field : String} {values : List String} {steps : List Step} {members : Members}
    (member : members ∈ deal field values steps) : members = [] ∨ ∃ value, members = [(field, .text value)] := by
  induction steps generalizing values with
  | nil => cases values <;> simp [deal] at member
  | cons step rest ih =>
    cases values with
    | nil =>
      rw [deal, List.mem_cons] at member
      exact member.elim .inl ih
    | cons value values =>
      unfold deal at member
      split at member
      · rw [List.mem_cons] at member
        exact member.elim (fun same => .inr ⟨value, same⟩) ih
      · rw [List.mem_cons] at member
        exact member.elim .inl ih

/-- What the description gives a step besides a schedule: addresses, under keys that differ. -/
theorem mem_addresses {urls emails : List String} {steps : List Step} {members : Members}
    (member : members ∈ List.zipWith (· ++ ·) (deal "url" urls steps) (deal "toEmail" emails steps)) :
    members.keys.Sublist ["url", "toEmail"] ∧ ∀ entry ∈ members, ∃ value, entry.2 = .text value := by
  rw [← List.map_uncurry_zip_eq_zipWith] at member
  obtain ⟨⟨url, email⟩, zipped, rfl⟩ := List.mem_map.mp member
  obtain ⟨isUrl, isEmail⟩ := List.of_mem_zip zipped
  rcases mem_deal isUrl with rfl | ⟨_, rfl⟩ <;> rcases mem_deal isEmail with rfl | ⟨_, rfl⟩ <;> simp [Members.keys]

theorem fits_addresses {members : Members} (keys : members.keys.Sublist ["url", "toEmail"])
    (texts : ∀ entry ∈ members, ∃ value, entry.2 = .text value) : (Json.object members).Fits 4 := by
  refine Json.fits_object_iff.mpr ⟨keys.nodup (by decide), fun entry listed => ?_⟩
  obtain ⟨value, same⟩ := texts entry listed
  rw [same]
  exact Json.fits_text value 3

theorem fits_schedule {hint : ScheduleHint} {members : Members} (hour : ∀ hour ∈ hint.hour, hour < 24)
    (minute : ∀ minute ∈ hint.minute, minute < 60) (keys : members.keys.Sublist ["url", "toEmail"])
    (texts : ∀ entry ∈ members, ∃ value, entry.2 = .text value) :
    (Json.object (scheduleParameters hint ++ members)).Fits 4 := by
  have shown : ∀ hour' ∈ (if hint.interval = .hour then none else hint.hour), hour' < 24 := by
    split
    · simp
    · exact hour
  unfold scheduleParameters
  dsimp only
  generalize (if hint.interval = .hour then none else hint.hour) = shownHour at shown
  have item : (Json.object ([("mode", .text hint.interval.mode)] ++ shownHour.toList.map (fun hour => ("hour", .nat hour)) ++
      hint.minute.toList.map (fun minute => ("minute", .nat minute)))).Fits 1 := by
    refine Json.fits_object_iff.mpr ⟨?_, ?_⟩
    · cases shownHour <;> cases hint.minute <;> simp [Members.keys]
    · simp only [List.forall_mem_append, List.forall_mem_singleton, List.forall_mem_map, Option.mem_toList]
      exact ⟨⟨Json.fits_text _ 0, fun value held => Json.fits_nat (Nat.lt_trans (shown value held) (by decide)) 0⟩,
        fun value held => Json.fits_nat (Nat.lt_trans (minute value held) (by decide)) 0⟩
  have times : (Json.object [("item", .array [.object ([("mode", .text hint.interval.mode)] ++
      shownHour.toList.map (fun hour => ("hour", .nat hour)) ++
        hint.minute.toList.map (fun minute => ("minute", .nat minute)))])]).Fits 3 := by
    refine Json.fits_object_iff.mpr ⟨List.nodup_singleton _, List.forall_mem_singleton.mpr ?_⟩
    exact Json.fits_array_iff.mpr (List.forall_mem_singleton.mpr item)
  obtain ⟨_, addresses⟩ := Json.fits_object_iff.mp (fits_addresses keys texts)
  refine Json.fits_object_iff.mpr ⟨?_, List.forall_mem_cons.mpr ⟨times, addresses⟩⟩
  rw [Members.keys, List.map_append]
  exact (keys.cons_cons "triggerTimes").nodup (by decide)

/-- What a description gives a step nests at most four brackets deep. -/
theorem fits_textParameters {steps : List Step}
    (clock : ∀ hint ∈ classification.schedule, (∀ hour ∈ hint.hour, hour < 24) ∧ ∀ minute ∈ hint.minute, minute < 60) :
    ∀ members ∈ textParameters classification steps, (Json.object members).Fits 4 := by
  have each : ∀ members ∈ List.zipWith (· ++ ·) (deal "url" classification.entities.urls steps)
      (deal "toEmail" classification.entities.emails steps), (Json.object members).Fits 4 := fun members member =>
    fits_addresses (mem_addresses member).1 (mem_addresses member).2
  unfold textParameters
  dsimp only
  split
  · next hint first rest scheduled dealt =>
    rw [dealt, List.forall_mem_cons] at each
    obtain ⟨hour, minute⟩ := clock hint scheduled
    have head := mem_addresses (dealt ▸ List.mem_cons_self)
    rw [List.forall_mem_cons]
    exact ⟨fits_schedule hour minute head.1 head.2, each.2⟩
  · exact each

end Texts

end Called

section Standard

variable {configuration : Configuration} {classification : Classification} {overrides : Overrides} {step : Step}
variable (follows : configuration.Follows {}) (reads : configuration.vocabulary.Reads classification)
include follows reads

theorem asked_of_mem {request : Request} (member : request ∈ requests configuration classification []) :
    request.role ∈ placedRoles ∧ request.key ∈ standardKeys request.role := by
  have single : ∀ {role : Role} {requests : List Request}, role ∈ placedRoles → Asked role requests → request ∈ requests →
      request.role ∈ placedRoles ∧ request.key ∈ standardKeys request.role := by
    intro role requests placed asked listed
    obtain ⟨same, known⟩ := asked.known request listed
    rw [same]
    exact ⟨placed, known⟩
  rw [requests_eq, List.mem_cons, List.mem_append, List.mem_append] at member
  rcases member with first | (action | condition) | dataOp
  · exact single (by decide) (asked_triggerRequest classification.trigger) (List.mem_singleton.mpr first)
  · exact single (by decide) (asked_actions follows reads) action
  · exact single (by decide) (asked_conditionRequests follows reads []) condition
  · exact single (by decide) (asked_dataOpRequests follows reads []) dataOp

omit follows reads in
theorem share_called_le (configuration : Configuration) (classification : Classification) (services : List String) :
    ((called configuration classification services).map fun request => share (stepOf .standard request)).sum ≤
      4 * services.length := by
  have each : ∀ share' ∈ (called configuration classification services).map fun request => share (stepOf .standard request),
      share' ≤ 4 := List.forall_mem_map.mpr fun request _ => (small_stepOf request).2
  have few : (called configuration classification services).length ≤ services.length :=
    (Request.length_fresh_le _ _).trans (List.length_filterMap_le _ _)
  have total := List.sum_le_card_nsmul _ 4 each
  rw [List.length_map, Nat.nsmul_eq_mul] at total
  omega

/-- A plan has no more to place than steps for all keys would have, and one for each service of the caller. -/
theorem sum_share_le (services : List String) :
    ((calledSteps configuration classification overrides services).map share).sum ≤ 36 + 4 * services.length := by
  obtain ⟨asked, same, isAsked⟩ := exists_actions follows reads services
  have trigger := (asked_triggerRequest classification.trigger).share_le
  have actions := isAsked.share_le
  have called := share_called_le configuration classification services
  have conditions := (asked_conditionRequests follows reads services).share_le
  have dataOps := (asked_dataOpRequests follows reads services).share_le
  have total := sum_share_standardStep
  simp only [placedRoles, List.map_cons, List.map_nil, List.sum_cons, List.sum_nil] at total
  rw [List.map_singleton, List.sum_singleton] at trigger
  rw [map_calledSteps configuration classification overrides services share fun _ _ _ => rfl, requests_eq, same,
    follows.catalog_standard, List.map_cons, List.map_append, List.map_append, List.map_append, List.sum_cons,
    List.sum_append, List.sum_append, List.sum_append]
  omega

/-- The step of a request is that of its key, but for its parameters and what is told of it. -/
theorem sound_called (member : step ∈ calledSteps configuration classification overrides []) :
    step.Sound ∧ step.name.length ≤ 31 ∧
      (configuration.catalog.mayFailType step.nodeType = true → step.mayFail = true) := by
  obtain ⟨request, listed, fromText, _, rfl⟩ := exists_request member
  obtain ⟨placed, known⟩ := asked_of_mem follows reads listed
  obtain ⟨sound, short, prone⟩ := sound_standardStep request.role placed request.key known
  rw [follows.catalog_standard, stepOf_standard]
  exact ⟨⟨⟨sound.nameable.matched, sound.nameable.short, sound.nameable.branching⟩, sound.typed, sound.credentials⟩,
    short, prone⟩

theorem fits_called {services : List String} {bound : Nat} (room : 4 ≤ bound)
    (fits : ∀ entry ∈ overrides.entries, (Json.object entry.2).Fits bound)
    (member : step ∈ calledSteps configuration classification overrides services) :
    (Json.object step.parameters).Fits bound := by
  obtain ⟨request, listed, fromText, isText, rfl⟩ := exists_request member
  have default := (small_stepOf request).1
  have text := fits_textParameters reads.schedule fromText isText
  have caller : (Json.object ((overrides.get? (stepOf configuration.catalog request).key).getD [])).Fits bound := by
    cases found : overrides.get? (stepOf configuration.catalog request).key with
    | none => exact ⟨⟨.nil, trivial⟩, Nat.le_trans (by decide) room⟩
    | some members => exact fits (_, members) (Dictionary.get?_eq_some_iff.mp found)
  rw [follows.catalog_standard] at caller ⊢
  exact Parameters.fits_merge (Parameters.fits_merge (default.mono room) (text.mono room)) caller

omit reads in
/-- Handlers hand everything on, and have parameters that nest hardly. -/
theorem failurePattern_standard {pattern : FailurePattern} (found : configuration.failures.failurePattern? = some pattern) :
    pattern.nodeType = Step.passThroughType ∧ (Json.object pattern.parameters).Fits 4 := by
  have standard : (({} : FailurePolicy).failurePattern?.all fun pattern =>
      decide (pattern.nodeType = Step.passThroughType ∧ (Json.object pattern.parameters).Fits 4)) = true := by
    decide
  have same : ({} : FailurePolicy).failurePattern? = some pattern := by
    rw [← found, follows.failures]
  rw [same] at standard
  simpa using standard

theorem sound_handler (member : step ∈ handlers configuration.failures
    (calledSteps configuration classification overrides [])) : step.Sound := by
  obtain ⟨_, pattern, found, index, guarded, place, _, rfl⟩ := mem_handlers.mp member
  obtain ⟨sound, short, _⟩ := sound_called follows reads (List.mem_of_getElem? place)
  obtain ⟨typed, _⟩ := failurePattern_standard follows found
  have suffix : (" Fallback" : String).length = 9 := rfl
  refine ⟨⟨Pattern.matchesText_append sound.nameable.matched (by decide), ?_, nofun⟩, ?_, by simp [handlerOf, Dictionary.empty]⟩
  · rw [handlerOf, String.length_append, suffix]
    omega
  · rw [handlerOf, typed, Step.passThrough_standard.1]

theorem sound_steps (member : step ∈ (ofClassification configuration classification overrides []).steps) : step.Sound := by
  rw [steps_ofClassification, List.mem_append] at member
  exact member.elim (fun called => (sound_called follows reads called).1) (sound_handler follows reads)

theorem fits_steps {services : List String} {bound : Nat} (room : 4 ≤ bound)
    (fits : ∀ entry ∈ overrides.entries, (Json.object entry.2).Fits bound)
    (member : step ∈ (ofClassification configuration classification overrides services).steps) :
    (Json.object step.parameters).Fits bound := by
  rw [steps_ofClassification, List.mem_append] at member
  rcases member with called | handler
  · exact fits_called follows reads room fits called
  · obtain ⟨_, pattern, found, index, guarded, _, _, rfl⟩ := mem_handlers.mp handler
    exact (failurePattern_standard follows found).2.mono room

omit follows reads in
theorem length_handlers_le (policy : FailurePolicy) (steps : List Step) :
    (handlers policy steps).length ≤ (steps.map fun step => if step.mayFail then 1 else 0).sum := by
  have prone : (steps.zipIdx.filter (·.1.mayFail)).length = (steps.map fun step => if step.mayFail then 1 else 0).sum := by
    conv_rhs => rw [← List.zipIdx_map_fst 0 steps, List.map_map]
    generalize steps.zipIdx = numbered
    induction numbered with
    | nil => rfl
    | cons part rest ih =>
      rw [List.filter_cons, List.map_cons, List.sum_cons, ← ih]
      split <;> simp_all [Nat.add_comm]
  unfold handlers
  split
  · rw [List.length_map, prone]
  · exact Nat.zero_le _

/-- The ways out of all steps of a plan. -/
theorem sum_span_le (services : List String) :
    ((ofClassification configuration classification overrides services).steps.map Step.span).sum ≤
      36 + 4 * services.length := by
  have shares : ((calledSteps configuration classification overrides services).map share).sum ≤ 36 + 4 * services.length :=
    sum_share_le follows reads services
  have handlers := length_handlers_le configuration.failures (calledSteps configuration classification overrides services)
  have straight : (Plan.handlers configuration.failures (calledSteps configuration classification overrides services)).map
      Step.span = List.replicate (Plan.handlers configuration.failures
        (calledSteps configuration classification overrides services)).length 1 := by
    refine List.eq_replicate_iff.mpr ⟨List.length_map _, List.forall_mem_map.mpr fun handler member => ?_⟩
    obtain ⟨_, pattern, _, index, guarded, _, _, rfl⟩ := mem_handlers.mp member
    rfl
  have split : share = fun step => step.span + if step.mayFail then 1 else 0 := rfl
  rw [split, List.sum_map_add] at shares
  rw [steps_ofClassification, List.map_append, List.sum_append, straight, List.sum_replicate_nat, Nat.mul_one]
  omega

end Standard

end Plan

end WorkflowSynthesis
