import WorkflowSynthesis.CommandLine.Dialogue
import WorkflowSynthesis.CommandLine.Options
import WorkflowSynthesis.CommandLine.Override
import WorkflowSynthesis.Generator

/-!
The program behind the command line: it generates one workflow, prints it or writes it to a file, and
remarks on it. The exit code tells whether the workflow can be run.
-/

namespace WorkflowSynthesis

namespace Program

def fail {α : Type} (message : String) : Dialogue α := .remark ("\nError: " ++ message ++ "\n") (.exit 1)

def orFail {α ε : Type} (message : ε → String) : Except ε α → Dialogue α
  | .ok result => .done result
  | .error error => fail (message error)

def configuration : Option String → Dialogue (Except ConfigurationError Configuration)
  | none => .done Configuration.standard
  | some path => .load path fun content =>
    .done (match content with
      | .ok text => Configuration.ofText text
      | .error reason => .error (.unreadable path reason))

def deliver (output : Option String) (text : String) : Dialogue Unit :=
  match output with
  | none => .print (text ++ "\n") (.done ())
  | some path => .save path text fun written =>
    match written with
    | .ok () => .remark ("Workflow written to " ++ path ++ "\n") (.done ())
    | .error reason => fail ("Failed to write workflow to '" ++ path ++ "': " ++ reason)

def remarks (inFull : Bool) (report : Report) : String :=
  if inFull then "\n" ++ report.text ++ "\n" else report.headline ++ "\n"

def generation (identifiers : Identifiers) (options : Options) (configuration : Configuration)
    (overrides : Overrides) (description : String) : Generation :=
  let generator : Generator := {
    configuration
    identifiers := if options.has .sequentialIds then .sequential "node" else identifiers
    documents := configuration.thresholds.requiredDocumentation && !options.has .noDocs }
  generator.generate description {
    purpose := options.purpose.getD ""
    outcome := options.outcome.getD ""
    services := options.services
    overrides }

def generate (identifiers : Identifiers) (options : Options) (description : String) : Dialogue Unit := do
  let configuration ← orFail (fun error => "Invalid configuration: " ++ ConfigurationError.message error)
    (← configuration options.configuration)
  let overrides ← orFail OverrideError.message (Overrides.ofTexts options.parameters)
  let generation := generation identifiers options configuration overrides description
  deliver options.output (generation.workflow.toText configuration.output.jsonIndentation.toNat)
  .remark (remarks (options.has .report) generation.report) (.done ())
  if generation.isExecutable then .exit 0 else .exit 2

/-- An empty answer stands for the value known so far. -/
def answer (known : Option String) (line : String) : String :=
  let answer := Text.trim line
  if answer = "" then known.getD "" else answer

def ask (question : String) (known : Option String) : Dialogue String :=
  let hint := match known with
    | none => ""
    | some value => " [default: " ++ value ++ "]"
  .remark ("> " ++ question ++ hint ++ ": ") (.ask fun line => .done (answer known line))

def nonempty (text : String) : Option String := if text = "" then none else some text

def answered (options : Options) (purpose output : String) : Options :=
  { options with
    purpose := (nonempty purpose).or options.purpose
    output := nonempty output
    switches := .report :: options.switches }

def converse (identifiers : Identifiers) (options : Options) : Dialogue Unit := do
  .remark "--- Textflow Interactive Mode ---\n" (.done ())
  let description ← ask "Describe the automation" options.description
  if description = "" then fail "A description is required."
  let purpose ← ask "What is it for? (optional)" options.purpose
  let output ← ask "Output file (optional, empty for stdout)" options.output
  generate identifiers (answered options purpose output) description

def run (identifiers : Identifiers) (arguments : List String) : Dialogue Unit :=
  match Options.ofArguments? arguments with
  | none => .remark "usage error" (.exit 2)
  | some options =>
    if options.has .human then converse identifiers options
    else match options.description with
      | none => fail "A description is required in non-interactive mode."
      | some description => generate identifiers options description

end Program

end WorkflowSynthesis
