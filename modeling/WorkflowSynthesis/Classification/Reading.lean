import WorkflowSynthesis.Classification.Basic
import WorkflowSynthesis.Classification.ClockTime
import WorkflowSynthesis.Text.Alphabetic
import WorkflowSynthesis.Text.Numeric
import WorkflowSynthesis.Vocabulary.Basic

/-!
Reading a description. Its words are compared with the vocabulary, its characters with the patterns.
Nothing can fail: what is not found has a default.
-/

namespace WorkflowSynthesis

def Text.isAlphanumeric (c : Char) : Bool := Text.isAlphabetic c || Text.isNumeric c

def Text.tokens (text : String) : List String :=
  (Text.stretches (fun c => !Text.isAlphanumeric c) (Text.lowercase text).toList).map String.ofList

namespace Vocabulary

variable (vocabulary : Vocabulary)

def detectTrigger (description : String) : Trigger :=
  match vocabulary.triggerRules.find? (·.pattern.matchesText description) with
  | some rule => rule.trigger
  | none => vocabulary.defaultTrigger

def primaryAction (tokens : List String) : String :=
  (vocabulary.actionPriority.find? tokens.contains).getD vocabulary.defaultAction

def found (kind : KeywordKind) (tokens : List String) : List String :=
  (tokens.filter (vocabulary.isKeyword kind)).eraseDups

def firstService? (tokens : List String) : Option (String × String) :=
  tokens.findSome? fun token => (vocabulary.serviceKey? token).map (token, ·)

/-- One mention for every action verb. Its service is the first one before the next action verb. -/
def allMentions : List String → List Mention
  | [] => []
  | token :: rest =>
    if vocabulary.isKeyword .action token then
      let service := vocabulary.firstService? (rest.takeWhile fun word => !vocabulary.isKeyword .action word)
      { verb := token, service := service.map (·.1), serviceKey := service.map (·.2) } :: allMentions rest
    else allMentions rest

def mentions (tokens : List String) : List Mention :=
  (vocabulary.allMentions tokens).eraseDupsBy fun mention other =>
    mention.verb == other.verb && mention.serviceKey == other.serviceKey

def addresses (pattern : Matcher) (description : String) : List String :=
  ((pattern.allMatches description).map (·.text)).eraseDups

def entities (description : String) : Entities :=
  { urls := addresses vocabulary.url description, emails := addresses vocabulary.email description }

end Vocabulary

def Interval.isNamed (adverb unit : String) (tokens : List String) : Bool :=
  tokens.contains adverb || (tokens.zip tokens.tail).any fun (first, second) => first == "every" && second == unit

def Interval.ofTokens (tokens : List String) : Interval :=
  if isNamed "hourly" "hour" tokens then .hour
  else if isNamed "weekly" "week" tokens then .week
  else if isNamed "monthly" "month" tokens then .month
  else .day

namespace Vocabulary

variable (vocabulary : Vocabulary)

def scheduleHint (description : String) (tokens : List String) : ScheduleHint :=
  let time := ClockTime.find? vocabulary.time description
  { interval := Interval.ofTokens tokens, hour := time.map (·.1), minute := time.map (·.2) }

def classify (description : String) : Classification :=
  let tokens := Text.tokens description
  let trigger := vocabulary.detectTrigger description
  { trigger
    primaryAction := vocabulary.primaryAction tokens
    actions := vocabulary.mentions tokens
    triggerKeywords := vocabulary.found .trigger tokens
    conditions := vocabulary.found .condition tokens
    dataOps := vocabulary.found .dataOp tokens
    schedule := if trigger = .schedule then some (vocabulary.scheduleHint description tokens) else none
    entities := vocabulary.entities description }

end Vocabulary

end WorkflowSynthesis
