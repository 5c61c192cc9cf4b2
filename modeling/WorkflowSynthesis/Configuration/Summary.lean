import WorkflowSynthesis.Configuration.Basic
import WorkflowSynthesis.Text.Hidden

/-! Summaries of configurations on one line, for those who look for faults in them. -/

namespace WorkflowSynthesis

namespace Summary

def quotedChar (c : Char) : List Char :=
  if c = '"' then ['\\', '"']
  else if c = '\\' then ['\\', '\\']
  else if c = '\n' then ['\\', 'n']
  else if c = '\r' then ['\\', 'r']
  else if c = '\t' then ['\\', 't']
  else if c.toNat = 0 then ['\\', '0']
  else if Text.isHidden c then
    ['\\', 'u', '\x7b'] ++ Nat.toDigits 16 c.toNat ++ ['\x7d']
  else [c]

def quoted (text : String) : String := "\"" ++ String.ofList (text.toList.flatMap quotedChar) ++ "\""

def list (items : List String) : String := "[" ++ ", ".intercalate items ++ "]"

def record (name : String) (fields : List (String × String)) (more : Bool) : String :=
  let parts := fields.map (fun (field, value) => field ++ ": " ++ value) ++ if more then [".."] else []
  name ++ " \x7b " ++ ", ".intercalate parts ++ " \x7d"

def integer (value : Int64) : String := toString value.toInt

def word (value : UInt64) : String := toString value.toNat

def truth (value : Bool) : String := if value then "true" else "false"

end Summary

def Grid.summary (grid : Grid) : String :=
  Summary.record "LayoutConfig" [
    ("origin", Summary.list [Summary.integer grid.origin.1, Summary.integer grid.origin.2]),
    ("horizontal_spacing", Summary.integer grid.horizontalSpacing),
    ("vertical_spacing", Summary.integer grid.verticalSpacing)] false

def Thresholds.summary (thresholds : Thresholds) : String :=
  Summary.record "QualityThresholds" [
    ("minimum_nodes", Summary.word thresholds.minimumNodes),
    ("maximum_nodes", Summary.word thresholds.maximumNodes),
    ("required_documentation", Summary.truth thresholds.requiredDocumentation),
    ("credential_validation", Summary.truth thresholds.credentialValidation)] false

/-- The measures of a configuration; what is left out shows as two points. -/
def Configuration.summary (configuration : Configuration) : String :=
  Summary.record "GeneratorConfig" [
    ("catalog_entries", toString configuration.catalog.entries.keys.length),
    ("layout", configuration.grid.summary),
    ("quality", configuration.thresholds.summary),
    ("error_handling", Summary.quoted configuration.failures.pattern)] true

def NoteTemplates.summary (templates : NoteTemplates) : String :=
  Summary.record "DocumentationTemplates"
    [("categories", Summary.list (templates.table.keys.map Summary.quoted))] false

end WorkflowSynthesis
