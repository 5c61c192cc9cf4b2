import WorkflowSynthesis.Catalog.Basic
import WorkflowSynthesis.Configuration.Naming
import WorkflowSynthesis.Notes.Template
import WorkflowSynthesis.Settings.Reader
import WorkflowSynthesis.Vocabulary.Basic

/-! Configurations: settings that have been checked and made ready for use. -/

namespace WorkflowSynthesis

structure Configuration where
  vocabulary : Vocabulary
  catalog : Catalog
  grid : Grid
  thresholds : Thresholds
  failures : FailurePolicy
  naming : NamingRules
  notes : NoteSettings
  templates : NoteTemplates
  workflow : WorkflowDefaults
  recognizedCredentials : List String
  output : OutputSettings

def Grid.check (grid : Grid) : Except ConfigurationError Unit :=
  if grid.horizontalSpacing ≤ 0 then .error (.invalidSpacing "horizontalSpacing" grid.horizontalSpacing)
  else if grid.verticalSpacing ≤ 0 then .error (.invalidSpacing "verticalSpacing" grid.verticalSpacing)
  else .ok ()

def Thresholds.check (thresholds : Thresholds) : Except ConfigurationError Unit :=
  if thresholds.maximumNodes < thresholds.minimumNodes then
    .error (.invertedNodeRange thresholds.minimumNodes thresholds.maximumNodes)
  else .ok ()

namespace FailurePolicy

/-- The pattern in use. A checked policy has one. -/
def failurePattern? (policy : FailurePolicy) : Option FailurePattern := policy.patterns.get? policy.pattern

def check (policy : FailurePolicy) : Except ConfigurationError Unit :=
  if policy.patterns.contains policy.pattern then .ok () else .error (.unknownFailurePattern policy.pattern)

end FailurePolicy

namespace Configuration

def ofSettings (settings : Settings) (engine : PatternEngine := .standard) :
    Except ConfigurationError Configuration := do
  settings.grid.check
  settings.thresholds.check
  settings.failures.check
  let vocabulary ← Vocabulary.ofSettings settings.vocabulary engine
  let catalog ← Catalog.ofSettings settings.catalog
  let naming ← NamingRules.ofSettings settings.naming engine
  return {
    vocabulary, catalog, naming
    grid := settings.grid
    thresholds := settings.thresholds
    failures := settings.failures
    notes := settings.notes
    templates := .standard
    workflow := settings.workflow
    recognizedCredentials := settings.recognizedCredentials
    output := settings.output }

def standard : Except ConfigurationError Configuration := ofSettings {}

def ofText (text : String) (engine : PatternEngine := .standard) : Except ConfigurationError Configuration :=
  match Settings.parse? text with
  | none => .error .malformed
  | some settings => ofSettings settings engine

end Configuration

end WorkflowSynthesis
