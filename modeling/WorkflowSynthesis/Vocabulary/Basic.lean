import WorkflowSynthesis.Configuration.Error
import WorkflowSynthesis.Pattern.Engine
import WorkflowSynthesis.Settings.Basic
import WorkflowSynthesis.Text.Case

/-! The vocabulary: settings made ready for use, with words in lower case and patterns read. -/

namespace WorkflowSynthesis

inductive KeywordKind where
  | trigger
  | action
  | condition
  | dataOp
  deriving DecidableEq

structure TriggerRule where
  trigger : Trigger
  source : String
  pattern : Matcher

structure Vocabulary where
  triggerKeywords : List String
  actionKeywords : List String
  conditionKeywords : List String
  dataOpKeywords : List String
  actionPriority : List String
  defaultAction : String
  triggerRules : List TriggerRule
  defaultTrigger : Trigger
  services : Dictionary String
  verbDefaults : Dictionary String
  conditionKeys : Dictionary String
  url : Matcher
  email : Matcher
  time : Matcher

def compilePattern (engine : PatternEngine) (use : PatternUse) (source : String) :
    Except ConfigurationError Matcher :=
  match engine source true with
  | some pattern => .ok pattern
  | none => .error (.invalidPattern use source)

namespace Vocabulary

/-- A dictionary with its keys in lower case; of keys that become equal the last one counts. -/
def lowercaseKeys (dictionary : Dictionary String) : Dictionary String :=
  .ofList (dictionary.entries.map fun entry => (Text.lowercase entry.1, entry.2))

def ofSettings (settings : VocabularySettings) (engine : PatternEngine := .standard) :
    Except ConfigurationError Vocabulary := do
  let triggerRules ← settings.triggerPatterns.mapM fun rule => do
    let pattern ← compilePattern engine (.trigger rule.trigger) rule.pattern
    return { trigger := rule.trigger, source := rule.pattern, pattern : TriggerRule }
  let url ← compilePattern engine .url settings.urlPattern
  let email ← compilePattern engine .email settings.emailPattern
  let time ← compilePattern engine .time settings.timePattern
  return {
    triggerKeywords := settings.triggerKeywords.map Text.lowercase
    actionKeywords := settings.actionKeywords.map Text.lowercase
    conditionKeywords := settings.conditionKeywords.map Text.lowercase
    dataOpKeywords := settings.dataOpKeywords.map Text.lowercase
    actionPriority := settings.actionPriority.map Text.lowercase
    defaultAction := Text.lowercase settings.defaultAction
    triggerRules
    defaultTrigger := settings.defaultTrigger
    services := lowercaseKeys settings.services
    verbDefaults := lowercaseKeys settings.verbDefaults
    conditionKeys := lowercaseKeys settings.conditionKeys
    url, email, time }

def keywords (vocabulary : Vocabulary) : KeywordKind → List String
  | .trigger => vocabulary.triggerKeywords
  | .action => vocabulary.actionKeywords
  | .condition => vocabulary.conditionKeywords
  | .dataOp => vocabulary.dataOpKeywords

def isKeyword (vocabulary : Vocabulary) (kind : KeywordKind) (word : String) : Bool :=
  (vocabulary.keywords kind).contains word

def serviceKey? (vocabulary : Vocabulary) (word : String) : Option String := vocabulary.services.get? word

def verbDefault? (vocabulary : Vocabulary) (verb : String) : Option String := vocabulary.verbDefaults.get? verb

def conditionKey (vocabulary : Vocabulary) (keyword : String) : String :=
  (vocabulary.conditionKeys.get? keyword).getD "condition"

end Vocabulary

end WorkflowSynthesis
