import WorkflowSynthesis.Trigger

/-! What a description was found to ask for. -/

namespace WorkflowSynthesis

structure Mention where
  verb : String
  service : Option String
  serviceKey : Option String
  deriving DecidableEq

inductive Interval where
  | hour
  | day
  | week
  | month
  deriving DecidableEq

def Interval.all : List Interval := [.hour, .day, .week, .month]

def Interval.mode : Interval → String
  | .hour => "everyHour"
  | .day => "everyDay"
  | .week => "everyWeek"
  | .month => "everyMonth"

structure ScheduleHint where
  interval : Interval
  hour : Option Nat
  minute : Option Nat
  deriving DecidableEq

structure Entities where
  urls : List String := []
  emails : List String := []
  deriving DecidableEq

/-- The findings in a description, each list in the order of the text. -/
structure Classification where
  trigger : Trigger
  primaryAction : String
  actions : List Mention
  triggerKeywords : List String
  conditions : List String
  dataOps : List String
  schedule : Option ScheduleHint
  entities : Entities
  deriving DecidableEq

def Classification.isUnclassified (classification : Classification) : Bool :=
  classification.actions.isEmpty && classification.triggerKeywords.isEmpty &&
    classification.conditions.isEmpty && classification.dataOps.isEmpty

end WorkflowSynthesis
