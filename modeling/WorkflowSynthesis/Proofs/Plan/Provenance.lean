import WorkflowSynthesis.Proofs.Parameters.Paths
import WorkflowSynthesis.Proofs.Plan.Handlers

/-!
Where the parameters of a step come from: from its entry, from the description and from the caller, each laid over what
was there before. Addresses of a description go in turn to the steps that require them.
-/

namespace WorkflowSynthesis

namespace Parameters

/-- Whether a field has no value, `null`, or a text of white space only. -/
def Lacks (parameters : Members) (field : String) : Prop :=
  parameters.value? field = none ∨ parameters.value? field = some .null ∨
    ∃ text, parameters.value? field = some (.text text) ∧ ∀ c ∈ text.toList, Text.isBlank c = true

theorem isPresent_eq_false_iff {parameters : Members} {field : String} :
    isPresent parameters field = false ↔ Lacks parameters field := by
  unfold isPresent Lacks
  cases parameters.value? field with
  | none => simp
  | some value => cases value <;> simp [Text.isBlankText]

instance (parameters : Members) (field : String) : Decidable (Lacks parameters field) :=
  decidable_of_iff _ isPresent_eq_false_iff

theorem missing_eq_filter (parameters : Members) (required : List String) :
    missing parameters required = required.filter (Lacks parameters ·) := by
  refine List.filter_congr fun field _ => ?_
  simp [← isPresent_eq_false_iff]

end Parameters

/-- The entry that a step for a key is made from. -/
def Catalog.entryFor (catalog : Catalog) (key : String) : CatalogEntry := (catalog.get? key).getD catalog.fallback

namespace Plan

section Deal

/-- How many steps before a place require a field. -/
def turn (field : String) (steps : List Step) (place : Nat) : Nat :=
  (steps.take place).countP (·.requiredFields.contains field)

/-- The value for a step at a place, if values go in turn to the steps that require a field. -/
def dealt? (field : String) (values : List String) (steps : List Step) (place : Nat) (step : Step) : Option String :=
  if field ∈ step.requiredFields then values[turn field steps place]? else none

theorem getElem?_deal (field : String) (values : List String) {steps : List Step} {place : Nat} {step : Step}
    (planned : steps[place]? = some step) :
    (deal field values steps)[place]? =
      some (Members.ofOption field .text (dealt? field values steps place step)) := by
  induction steps generalizing values place with
  | nil => cases planned
  | cons first rest ih =>
    cases place with
    | zero =>
      cases planned
      cases values with
      | nil => simp [deal, dealt?, Members.ofOption]
      | cons value values =>
        by_cases requires : step.requiredFields.contains field <;> simp_all [deal, dealt?, turn, Members.ofOption]
    | succ place =>
      cases values with
      | nil =>
        rw [deal, List.getElem?_cons_succ, ih [] planned]
        simp [dealt?]
      | cons value values =>
        have later : turn field (first :: rest) (place + 1) =
            turn field rest place + if first.requiredFields.contains field then 1 else 0 := List.countP_cons
        unfold deal
        split
        · next requires =>
          rw [List.getElem?_cons_succ, ih values planned, dealt?, dealt?, later, if_pos requires, List.getElem?_cons_succ]
        · next free =>
          rw [List.getElem?_cons_succ, ih (value :: values) planned, dealt?, dealt?, later, if_neg free, Nat.add_zero]

/-- Whether an object tells a time to start: how often, at which hour and at which minute. What is not known is left out,
and so is the hour of what starts every hour. -/
structure Due (hint : ScheduleHint) (item : Members) : Prop where
  keys : item.keys.Sublist ["mode", "hour", "minute"]
  mode : item.value? "mode" = some (.text (match hint.interval with
    | .hour => "everyHour"
    | .day => "everyDay"
    | .week => "everyWeek"
    | .month => "everyMonth"))
  hour : item.value? "hour" = if hint.interval = .hour then none else hint.hour.map .nat
  minute : item.value? "minute" = hint.minute.map .nat

/-- The hour that is told. -/
def hour? (hint : ScheduleHint) : Option Nat := if hint.interval = .hour then none else hint.hour

/-- What is told of a time to start. -/
def dueItem (hint : ScheduleHint) : Members :=
  [("mode", .text hint.interval.mode)] ++ Members.ofOption "hour" .nat (hour? hint) ++
    Members.ofOption "minute" .nat hint.minute

theorem scheduleParameters_eq (hint : ScheduleHint) :
    scheduleParameters hint = [("triggerTimes", .object [("item", .array [.object (dueItem hint)])])] := rfl

theorem due_dueItem (hint : ScheduleHint) : Due hint (dueItem hint) := by
  have values (key : String) : (dueItem hint).value? key =
      ((if key = "mode" then some (.text hint.interval.mode) else none).or
        (if key = "hour" then (hour? hint).map .nat else none)).or
          (if key = "minute" then hint.minute.map .nat else none) := by
    rw [dueItem, Members.value?_append, Members.value?_append, Members.value?_cons, Members.value?_ofOption,
      Members.value?_ofOption]
    rfl
  refine ⟨?_, ?_, ?_, ?_⟩
  · rw [dueItem, Members.keys, List.map_append, List.map_append]
    exact ((List.Sublist.refl ["mode"]).append (Members.keys_ofOption "hour" _ _)).append
      (Members.keys_ofOption "minute" _ _)
  · rw [values, if_pos rfl, Option.some_or, Option.some_or]
    cases hint.interval <;> rfl
  · rw [values]
    by_cases hourly : hint.interval = .hour <;> simp [hour?, hourly]
  · simp [values]

/-- What a description says for a step at a place: to the first one when to start, if there is a schedule, and to those
that require addresses the address whose turn it is. -/
structure Told (classification : Classification) (steps : List Step) (place : Nat) (step : Step) (members : Members) : Prop where
  keys : members.keys.Sublist ["triggerTimes", "url", "toEmail"]
  timed : ∀ hint, classification.schedule = some hint → place = 0 → ∃ item, Due hint item ∧
    members.value? "triggerTimes" = some (.object [("item", .array [.object item])])
  untimed : classification.schedule = none ∨ place ≠ 0 → members.value? "triggerTimes" = none
  url : members.value? "url" = (dealt? "url" classification.entities.urls steps place step).map .text
  toEmail : members.value? "toEmail" = (dealt? "toEmail" classification.entities.emails steps place step).map .text

theorem Told.nodup_keys {classification : Classification} {steps : List Step} {place : Nat} {step : Step} {members : Members}
    (told : Told classification steps place step members) : members.keys.Nodup :=
  told.keys.nodup (by decide)

theorem turn_eq (field : String) (steps : List Step) (place : Nat) :
    turn field steps place = ((steps.map (·.requiredFields)).take place).countP (·.contains field) := by
  rw [← List.map_take, List.countP_map]
  rfl

/-- What steps are told depends on what they require only. -/
theorem Told.congr {classification : Classification} {steps others : List Step} {place : Nat} {step other : Step}
    {members : Members} (told : Told classification steps place step members)
    (same : steps.map (·.requiredFields) = others.map (·.requiredFields)) (required : step.requiredFields = other.requiredFields) :
    Told classification others place other members := by
  have dealt : ∀ field values, dealt? field values others place other = dealt? field values steps place step := by
    intro field values
    rw [dealt?, dealt?, turn_eq, turn_eq, same, required]
  exact ⟨told.keys, told.timed, told.untimed, by rw [told.url, dealt], by rw [told.toEmail, dealt]⟩

/-- The parameters of a schedule, if there is one. -/
def scheduled (classification : Classification) : Members := (classification.schedule.map scheduleParameters).getD []

theorem getElem?_textParameters (classification : Classification) {steps : List Step} {place : Nat} {step : Step}
    (planned : steps[place]? = some step) :
    (textParameters classification steps)[place]? = some ((if place = 0 then scheduled classification else []) ++
      (Members.ofOption "url" .text (dealt? "url" classification.entities.urls steps place step) ++
        Members.ofOption "toEmail" .text (dealt? "toEmail" classification.entities.emails steps place step))) := by
  have addresses : (List.zipWith (· ++ ·) (deal "url" classification.entities.urls steps)
      (deal "toEmail" classification.entities.emails steps))[place]? =
      some (Members.ofOption "url" .text (dealt? "url" classification.entities.urls steps place step) ++
        Members.ofOption "toEmail" .text (dealt? "toEmail" classification.entities.emails steps place step)) := by
    rw [List.getElem?_zipWith, getElem?_deal "url" _ planned, getElem?_deal "toEmail" _ planned]
  unfold textParameters scheduled
  dsimp only
  generalize List.zipWith (· ++ ·) (deal "url" classification.entities.urls steps)
    (deal "toEmail" classification.entities.emails steps) = given at addresses ⊢
  cases classification.schedule with
  | none => simpa using addresses
  | some hint =>
    cases given with
    | nil => cases addresses
    | cons first rest =>
      cases place with
      | zero =>
        cases addresses
        rfl
      | succ place => exact addresses

theorem keys_scheduled (classification : Classification) : (scheduled classification).keys.Sublist ["triggerTimes"] := by
  unfold scheduled
  cases classification.schedule with
  | none => exact List.nil_sublist _
  | some hint => exact .refl _

theorem told_textParameters (classification : Classification) (steps : List Step) (place : Nat) (step : Step) :
    let url := dealt? "url" classification.entities.urls steps place step
    let email := dealt? "toEmail" classification.entities.emails steps place step
    Told classification steps place step ((if place = 0 then scheduled classification else []) ++
      (Members.ofOption "url" .text url ++ Members.ofOption "toEmail" .text email)) := by
  intro url email
  have keys : (Members.keys (if place = 0 then scheduled classification else [])).Sublist ["triggerTimes"] := by
    split
    · exact keys_scheduled classification
    · exact List.nil_sublist _
  have addressed (key : String) : Members.value? (Members.ofOption "url" .text url ++ Members.ofOption "toEmail" .text email)
      key = (if key = "url" then url.map .text else none).or (if key = "toEmail" then email.map .text else none) := by
    rw [Members.value?_append, Members.value?_ofOption, Members.value?_ofOption]
  have other (key : String) (different : key ≠ "triggerTimes") :
      Members.value? (if place = 0 then scheduled classification else []) key = none :=
    Members.value?_eq_none_iff.mpr fun listed => different (List.mem_singleton.mp (keys.subset listed))
  refine ⟨?_, fun hint found first => ?_, fun untimed => ?_, ?_, ?_⟩
  · rw [Members.keys, List.map_append, List.map_append]
    exact keys.append ((Members.keys_ofOption "url" _ _).append (Members.keys_ofOption "toEmail" _ _))
  · refine ⟨dueItem hint, due_dueItem hint, ?_⟩
    rw [if_pos first, scheduled, found, Option.map_some, Option.getD_some, scheduleParameters_eq]
    exact Members.value?_cons "triggerTimes" _ _
  · have nothing : (if place = 0 then scheduled classification else []) = [] := by
      rcases untimed with without | later
      · rw [scheduled, without]
        exact ite_self []
      · exact if_neg later
    rw [nothing, List.nil_append, addressed]
    rfl
  · rw [Members.value?_append, addressed, other "url" (by decide)]
    simp [url]
  · rw [Members.value?_append, addressed, other "toEmail" (by decide)]
    simp [email]

end Deal

section Entries

variable (catalog : Catalog) (request : Request)

@[simp]
theorem key_stepOf : (stepOf catalog request).key = request.key := by
  unfold stepOf
  split <;> rfl

theorem fallback_stepOf : (stepOf catalog request).fallback = (catalog.get? request.key).isNone := by
  unfold stepOf
  cases catalog.get? request.key <;> rfl

theorem entry_stepOf : (stepOf catalog request).parameters = (catalog.entryFor request.key).defaultParameters ∧
    (stepOf catalog request).requiredFields = (catalog.entryFor request.key).requiredFields := by
  unfold stepOf Catalog.entryFor
  cases catalog.get? request.key <;> exact ⟨rfl, rfl⟩

end Entries

section Called

variable {configuration : Configuration} {classification : Classification} {overrides : Overrides}
  {services : List String}

/-- Handlers alone name a step that they are there for. -/
theorem filter_unguarded :
    (ofClassification configuration classification overrides services).steps.filter (·.guards.isNone) =
      calledSteps configuration classification overrides services := by
  have called : ∀ step ∈ calledSteps configuration classification overrides services, step.guards.isNone = true :=
    fun step member => Option.isNone_iff_eq_none.mpr (unguarded_called member).1
  have guarding : ∀ handler ∈ handlers configuration.failures (calledSteps configuration classification overrides services),
      ¬handler.guards.isNone = true := by
    intro handler member
    obtain ⟨_, pattern, _, index, step, _, _, rfl⟩ := mem_handlers.mp member
    exact Bool.false_ne_true
  rw [steps_ofClassification, List.filter_append, List.filter_eq_self.mpr called, List.filter_eq_nil_iff.mpr guarding,
    List.append_nil]

/-- The step at a place is that of the request at this place, with what it is told. -/
theorem exists_told {place : Nat} {step : Step}
    (planned : (calledSteps configuration classification overrides services)[place]? = some step) :
    ∃ request, (requests configuration classification services)[place]? = some request ∧ ∃ fromText,
      Told classification (calledSteps configuration classification overrides services) place step fromText ∧
        step = (stepOf configuration.catalog request).withParameters fromText ((overrides.get? request.key).getD []) := by
  have fields : (calledSteps configuration classification overrides services).map (·.requiredFields) =
      ((requests configuration classification services).map (stepOf configuration.catalog)).map (·.requiredFields) :=
    (map_calledSteps configuration classification overrides services _ fun _ _ _ => rfl).trans List.map_map.symm
  obtain ⟨plain, fromText, isPlain, isText, rfl⟩ := List.getElem?_zipWith_eq_some.mp planned
  rw [getElem?_textParameters classification isPlain] at isText
  rw [List.getElem?_map] at isPlain
  obtain ⟨request, requested, rfl⟩ := Option.map_eq_some_iff.mp isPlain
  rw [key_stepOf]
  refine ⟨request, requested, fromText, ?_, rfl⟩
  cases isText
  exact (told_textParameters classification _ place _).congr fields.symm rfl

/-- Where the parameters of a step at a place come from, and which of them are missing. -/
structure Supplied (configuration : Configuration) (classification : Classification) (overrides : Overrides)
    (steps : List Step) (place : Nat) (step : Step) : Prop where
  required : step.requiredFields = (configuration.catalog.entryFor step.key).requiredFields
  /-- What the description says is laid over the defaults of the entry, and what the caller says over both. -/
  layers : ∃ fromText, Told classification steps place step fromText ∧
    step.parameters = Parameters.merge
      (Parameters.merge (configuration.catalog.entryFor step.key).defaultParameters fromText)
      ((overrides.get? step.key).getD [])
  /-- Whatever the caller says of a key, down to what is no object, is so in the step. -/
  caller : ∀ {layer : Members}, overrides.get? step.key = some layer → (Json.object layer).Proper →
    ∀ (path : List String) {leaf : Json}, leaf.members? = none → (Json.object layer).follow? path = some leaf →
      (Json.object step.parameters).follow? path = some leaf
  missing : step.missingFields = step.requiredFields.filter (Parameters.Lacks step.parameters ·)

theorem supplied_called {place : Nat} {step : Step}
    (planned : (calledSteps configuration classification overrides services)[place]? = some step) :
    Supplied configuration classification overrides (calledSteps configuration classification overrides services) place
      step := by
  obtain ⟨request, _, fromText, told, same⟩ := exists_told planned
  obtain ⟨defaults, required⟩ := entry_stepOf configuration.catalog request
  have key : step.key = request.key := by
    rw [same]
    exact key_stepOf configuration.catalog request
  have parameters : step.parameters = Parameters.merge
      (Parameters.merge (configuration.catalog.entryFor step.key).defaultParameters fromText)
      ((overrides.get? step.key).getD []) := by
    rw [key, ← defaults, same]
    rfl
  refine ⟨?_, ⟨fromText, told, parameters⟩, fun {layer} given proper path leaf isLeaf leads => ?_, ?_⟩
  · rw [key, ← required, same]
    rfl
  · rw [parameters, given, Option.getD_some, ← Parameters.mergeValue, Parameters.follow?_mergeValue proper leads,
      Parameters.mergeValue_of_leaf isLeaf]
  · rw [same]
    exact Parameters.missing_eq_filter _ _

/-- A plan consists of the steps that are called for, of which that of the trigger is the first, and of the handlers
that are planned for them. Each of the former has the defaults of its entry, over them what the description says, in
turn for those that require an address, and over both what the caller says of its key; and its missing fields are those
of the required ones that then have no value. -/
theorem supplied_ofClassification {settings : Settings} {engine : PatternEngine} {configuration : Configuration}
    (accepted : Configuration.ofSettings settings engine = .ok configuration) (classification : Classification)
    (overrides : Overrides) (services : List String) :
    let plan := ofClassification configuration classification overrides services
    let called := plan.steps.filter (·.guards.isNone)
    plan.steps = called ++ handlers configuration.failures called ∧
      (∃ trigger, called[0]? = some trigger ∧ trigger.key = classification.trigger.key ∧ trigger.role = .trigger) ∧
        ∀ place step, called[place]? = some step →
          Supplied configuration classification overrides called place step := by
  intro plan called
  have same : called = calledSteps configuration classification overrides services := filter_unguarded
  rw [same]
  refine ⟨rfl, ?_, fun place step planned => supplied_called planned⟩
  have checked := (Configuration.checked_of_ofSettings accepted).catalog
  have traits := map_calledSteps configuration classification overrides services (fun step => (step.key, step.role))
    fun _ _ _ => rfl
  have first := congrArg (·[0]?) traits
  rw [requests_eq, List.map_cons, List.getElem?_cons_zero, List.getElem?_map, key_stepOf, role_triggerRequest checked] at first
  obtain ⟨trigger, planned, isTrigger⟩ := Option.map_eq_some_iff.mp first
  exact ⟨trigger, planned, congrArg Prod.fst isTrigger, congrArg Prod.snd isTrigger⟩

/-- A description that fetches from one address and writes to another, every day at nine. -/
def reporting : Classification where
  trigger := .schedule
  primaryAction := "send"
  actions := [{ verb := "fetch", service := some "api", serviceKey := some "http_request" },
    { verb := "send", service := some "email", serviceKey := some "send_email" }]
  triggerKeywords := []
  conditions := []
  dataOps := []
  schedule := some { interval := .day, hour := some 9, minute := some 0 }
  entities := { urls := ["https://example.com/orders"], emails := ["ops@example.com"] }

/-- The trigger starts at nine instead of whenever its entry says. The first address goes to the second step, which is the
first to require one, and so does what the caller says of its key. -/
theorem supplied_ofClassification_reporting :
    ∃ configuration, Configuration.standard = .ok configuration ∧
      let overrides : Overrides := Dictionary.empty.insert "http_request" [("options", .object [("proxy", .text "gate")])]
      let called := (ofClassification configuration reporting overrides []).steps.filter (·.guards.isNone)
      (∃ trigger, called[0]? = some trigger ∧ trigger.key = "schedule" ∧ trigger.missingFields = [] ∧
        ∃ item : Members, trigger.parameters.value? "triggerTimes" = some (.object [("item", .array [.object item])]) ∧
          item.value? "mode" = some (.text "everyDay") ∧ item.value? "hour" = some (.nat 9) ∧
            item.value? "minute" = some (.nat 0)) ∧
      ∃ step, called[1]? = some step ∧ step.key = "http_request" ∧
        step.parameters.value? "url" = some (.text "https://example.com/orders") ∧
        (Json.object step.parameters).follow? ["options", "proxy"] = some (.text "gate") := by
  obtain ⟨configuration, accepted⟩ := Configuration.exists_standard
  refine ⟨configuration, accepted, ?_⟩
  intro overrides called
  obtain ⟨_, ⟨trigger, first, triggerKey, _⟩, supplied⟩ := supplied_ofClassification accepted reporting overrides []
  have catalog := (Configuration.follows_of_ofSettings accepted).catalog_standard
  have traits : called.map (fun step => (step.key, step.requiredFields)) = [("schedule", ["triggerTimes"]),
      ("http_request", ["url", "requestMethod"]), ("send_email", ["toEmail", "subject"])] := by
    have requests : requests configuration reporting [] = [triggerRequest .schedule,
        { key := "http_request", role := .action, intent := "fetch" },
        { key := "send_email", role := .action, intent := "send" }] := rfl
    rw [show called = calledSteps configuration reporting overrides [] from filter_unguarded,
      map_calledSteps configuration reporting overrides [] _ fun _ _ _ => rfl, requests, catalog]
    decide
  have second := congrArg (·[1]?) traits
  rw [List.getElem?_map] at second
  obtain ⟨step, planned, same⟩ := Option.map_eq_some_iff.mp second
  obtain ⟨key, required⟩ := Prod.mk.inj same
  obtain ⟨_, ⟨fromText, told, layers⟩, caller, _⟩ := supplied 1 step planned
  have fields : called.map (·.requiredFields) = [["triggerTimes"], ["url", "requestMethod"], ["toEmail", "subject"]] := by
    have seconds := congrArg (List.map Prod.snd) traits
    rwa [List.map_map] at seconds
  have turns : turn "url" called 1 = 0 := by
    rw [turn_eq, fields]
    rfl
  obtain ⟨triggerRequired, ⟨triggerText, triggerTold, triggerLayers⟩, _, triggerMissing⟩ := supplied 0 trigger first
  obtain ⟨item, due, timed⟩ := triggerTold.timed _ rfl rfl
  have starts : trigger.parameters.value? "triggerTimes" = some (.object [("item", .array [.object item])]) := by
    have ungiven : overrides.get? reporting.trigger.key = none := rfl
    rw [triggerLayers, triggerKey, catalog, ungiven, Option.getD_none, Parameters.merge,
      Parameters.value?_merge triggerTold.nodup_keys, timed]
    rfl
  refine ⟨⟨trigger, first, triggerKey, ?_, item, starts, due.mode, due.hour, due.minute⟩, step, planned, key, ?_, ?_⟩
  · have required : (Catalog.standard.entryFor reporting.trigger.key).requiredFields = ["triggerTimes"] := by decide
    rw [triggerMissing, triggerRequired, triggerKey, catalog, required]
    simp [Parameters.Lacks, starts]
  · have address : fromText.value? "url" = some (.text "https://example.com/orders") := by
      rw [told.url, dealt?, required, turns]
      rfl
    have given : (overrides.get? "http_request").getD [] = [("options", .object [("proxy", .text "gate")])] := rfl
    rw [layers, key, given, Parameters.value?_merge (by decide), Parameters.value?_merge told.nodup_keys, address]
    rfl
  · rw [key] at caller
    exact caller rfl (by decide) ["options", "proxy"] rfl rfl

end Called

end Plan

end WorkflowSynthesis
