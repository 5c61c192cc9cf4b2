import WorkflowSynthesis.Pattern.Matching
import WorkflowSynthesis.Pattern.Reader

/-!
Engines of regular expressions. To those who use a pattern it is what an engine makes of its text: nothing, or
something that finds matches. The standard engine runs the programs of this library. It knows only some properties and
flags and refuses patterns with other ones, so what is said of settings with patterns of their own is said of every
engine.
-/

namespace WorkflowSynthesis

/-- A match: its text, and those of the groups that it did not pass by. -/
structure Match where
  text : String
  group? : Nat → Option String

structure Matcher where
  matchesText : String → Bool
  allMatches : String → List Match

/-- Makes a pattern of a text, with or without regard to case, unless the text is none. -/
abbrev PatternEngine := String → Bool → Option Matcher

def Trail.toMatch (found : Trail) : Match where
  text := found.text
  group? := found.group?

def Pattern.matcher (pattern : Pattern) : Matcher where
  matchesText := pattern.matchesText
  allMatches text := (pattern.allMatches text).map Trail.toMatch

def PatternEngine.standard : PatternEngine := fun text ignoreCase => (Pattern.parse? text ignoreCase).map Pattern.matcher

end WorkflowSynthesis
