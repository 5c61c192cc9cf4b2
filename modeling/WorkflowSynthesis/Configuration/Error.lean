import WorkflowSynthesis.Role
import WorkflowSynthesis.Trigger

/-! Why a configuration is refused. -/

namespace WorkflowSynthesis

inductive PatternUse where
  | trigger (event : Trigger)
  | url
  | email
  | time
  | naming
  deriving DecidableEq

inductive EntryNeed where
  | trigger
  | fallback
  deriving DecidableEq

inductive EntryFault where
  | blankNodeType
  | blankDisplayName
  | noOutput
  | notTrigger (found : Role)
  | notAction (found : Role)
  deriving DecidableEq

inductive ConfigurationError where
  | unreadable (path reason : String)
  | malformed
  | invalidPattern (use : PatternUse) (pattern : String)
  | missingEntry (key : String) (need : EntryNeed)
  | invalidEntry (key : String) (fault : EntryFault)
  | unknownFailurePattern (key : String)
  | invalidSpacing (setting : String) (value : Int64)
  | invertedNodeRange (minimum maximum : UInt64)
  deriving DecidableEq

def PatternUse.name : PatternUse → String
  | .trigger event => "trigger '" ++ event.key ++ "'"
  | .url => "url entity"
  | .email => "email entity"
  | .time => "schedule time"
  | .naming => "node naming"

def EntryNeed.message : EntryNeed → String
  | .trigger => "every trigger type needs a node"
  | .fallback => "fallback node for unclassified actions"

def EntryFault.message : EntryFault → String
  | .blankNodeType => "nodeType is empty"
  | .blankDisplayName => "displayName is empty"
  | .noOutput => "a node needs at least one output"
  | .notTrigger found => "expected role 'trigger', found '" ++ found.name ++ "'"
  | .notAction found => "fallback must be an action, found '" ++ found.name ++ "'"

def ConfigurationError.message : ConfigurationError → String
  | .unreadable path reason => "Failed to read configuration file '" ++ path ++ "': " ++ reason
  | .malformed => "Failed to parse configuration JSON"
  | .invalidPattern use pattern =>
    "Pattern '" ++ pattern ++ "' for '" ++ use.name ++ "' is not a valid regular expression"
  | .missingEntry key need =>
    "Node catalog has no entry for mandatory key '" ++ key ++ "' (" ++ need.message ++ ")"
  | .invalidEntry key fault => "Catalog entry '" ++ key ++ "' is malformed: " ++ fault.message
  | .unknownFailurePattern key => "Error handling policy refers to unknown failure pattern '" ++ key ++ "'"
  | .invalidSpacing setting value =>
    "Layout setting '" ++ setting ++ "' must be positive, found " ++ toString value.toInt
  | .invertedNodeRange minimum maximum =>
    "Quality thresholds are inverted: minimumNodes (" ++ toString minimum.toNat ++ ") > maximumNodes (" ++
      toString maximum.toNat ++ ")"

end WorkflowSynthesis
