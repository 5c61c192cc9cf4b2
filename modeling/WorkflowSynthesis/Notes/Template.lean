import WorkflowSynthesis.Dictionary
import WorkflowSynthesis.Notes.Category
import WorkflowSynthesis.Text.Case

/-! The templates from which notes are written. -/

namespace WorkflowSynthesis

/-- What a template can draw on. Fields that are not used are empty. -/
structure NoteContext where
  purpose : String := ""
  condition : String := ""
  service : String := ""
  action : String := ""
  operation : String := ""
  scenario : String := ""
  description : String := ""

structure NoteTemplates where
  table : Dictionary (NoteContext → String)

namespace NoteTemplates

def empty : NoteTemplates := ⟨.empty⟩

def add (templates : NoteTemplates) (key : String) (template : NoteContext → String) : NoteTemplates :=
  ⟨templates.table.insert key template⟩

def standard : NoteTemplates := ⟨.ofList [
  ("start", fun context =>
    "🚀 WORKFLOW START\n\nPurpose: " ++ context.purpose ++
      "\n\nThis workflow will automatically execute when triggered."),
  ("decision", fun context =>
    "🔀 DECISION POINT\n\nCondition: " ++ context.condition ++
      "\n\nThe workflow branches based on this condition."),
  ("api", fun context =>
    "🌐 API CALL\n\nService: " ++ context.service ++ "\nAction: " ++ context.action ++
      "\n\nConnecting to external service."),
  ("transform", fun context =>
    "🔄 DATA TRANSFORMATION\n\nOperation: " ++ context.operation ++ "\n\nProcessing and transforming data."),
  ("error", fun context =>
    "⚠️ ERROR HANDLING\n\nScenario: " ++ context.scenario ++ "\n\nHandles errors gracefully.")]⟩

def contains (templates : NoteTemplates) (key : String) : Bool := templates.table.contains key

def generic (key description : String) : String :=
  let body := if Text.isBlankText description then "Additional workflow step" else description
  "📝 " ++ Text.uppercase key ++ "\n\n" ++ body

def render (templates : NoteTemplates) (category : NoteCategory) (context : NoteContext) : String :=
  match templates.table.get? category.key with
  | some template => template context
  | none => generic category.key context.description

def describe (purpose trigger outcome : String) : String :=
  "This workflow " ++ purpose ++ ". It is triggered " ++ trigger ++ " and results in " ++ outcome ++ "."

end NoteTemplates

end WorkflowSynthesis
