import WorkflowSynthesis.Configuration.Error
import WorkflowSynthesis.Pattern.Engine
import WorkflowSynthesis.Settings.Basic
import WorkflowSynthesis.Text.Case

/-! How nodes and workflows are named. -/

namespace WorkflowSynthesis

structure NamingRules where
  settings : NamingSettings
  pattern : Matcher

inductive NameFault where
  | tooLong
  | mismatch
  deriving DecidableEq

namespace NamingRules

def ofSettings (settings : NamingSettings) (engine : PatternEngine := .standard) :
    Except ConfigurationError NamingRules :=
  match engine settings.pattern false with
  | some pattern => .ok { settings, pattern }
  | none => .error (.invalidPattern .naming settings.pattern)

/-- How a name breaks the rules, if it does. Length is counted in characters. -/
def fault? (rules : NamingRules) (name : String) : Option NameFault :=
  if rules.settings.maxLength.toNat < name.length then some .tooLong
  else if rules.pattern.matchesText name then none
  else some .mismatch

def faultMessage (rules : NamingRules) (name : String) : NameFault → String
  | .tooLong =>
    "'" ++ name ++ "' is " ++ toString name.length ++ " characters long (max " ++
      toString rules.settings.maxLength.toNat ++ ")"
  | .mismatch => "'" ++ name ++ "' does not match pattern " ++ rules.settings.pattern

def violation? (rules : NamingRules) (name : String) : Option String :=
  (rules.fault? name).map (rules.faultMessage name)

def workflowName (rules : NamingRules) (description : String) : String :=
  match (Text.words description).take rules.settings.workflowNameWords.toNat with
  | [] => rules.settings.fallbackWorkflowName
  | words =>
    let suffix := if rules.settings.workflowNameSuffix = "" then [] else [rules.settings.workflowNameSuffix]
    " ".intercalate (words.map Text.capitalize ++ suffix)

end NamingRules

end WorkflowSynthesis
