/-!
Options of the command line. An option stands for itself, as `--report` does, or takes a value, which
follows it as the next argument or after an equals sign. Short options can share one argument. All
but two options may be given once.
-/

namespace WorkflowSynthesis

inductive Switch where
  | sequentialIds
  | noDocs
  | report
  | human
  deriving DecidableEq

inductive Setting where
  | purpose
  | outcome
  | service
  | parameter
  | configuration
  | output
  deriving DecidableEq

structure Options where
  description : Option String := none
  purpose : Option String := none
  outcome : Option String := none
  services : List String := []
  parameters : List String := []
  configuration : Option String := none
  output : Option String := none
  switches : List Switch := []

inductive OptionName where
  | switch (switch : Switch)
  | setting (setting : Setting)

namespace OptionName

def ofLong? (name : List Char) : Option OptionName :=
  [("sequential-ids", .switch .sequentialIds), ("no-docs", .switch .noDocs), ("report", .switch .report),
    ("human", .switch .human), ("purpose", .setting .purpose), ("outcome", .setting .outcome),
    ("service", .setting .service), ("param", .setting .parameter), ("config", .setting .configuration),
    ("output", .setting .output)].lookup (String.ofList name)

def ofShort? : Char → Option OptionName
  | 'i' => some (.switch .human)
  | 'c' => some (.setting .configuration)
  | 'o' => some (.setting .output)
  | _ => none

end OptionName

inductive Argument where
  | plain (text : String)
  /-- After this argument no other is an option. -/
  | endOfOptions
  /-- Switches, and a setting after them whose value may be still to come. -/
  | options (switches : List Switch) (setting : Option (Setting × Option String))

namespace Argument

/-- A cluster of short options. What follows a setting is its value; an equals sign between the two is
left out. -/
def ofShort? : List Char → Option Argument
  | [] => some (.options [] none)
  | c :: rest => do
    match ← OptionName.ofShort? c with
    | .switch switch =>
      match ← ofShort? rest with
      | .options switches setting => some (.options (switch :: switches) setting)
      | _ => none
    | .setting setting =>
      match rest with
      | [] => some (.options [] (some (setting, none)))
      | '=' :: value => some (.options [] (some (setting, some (String.ofList value))))
      | value => some (.options [] (some (setting, some (String.ofList value))))

def ofLong? (text : List Char) : Option Argument := do
  let value := match text.dropWhile (· ≠ '=') with
    | [] => none
    | _ :: value => some (String.ofList value)
  match ← OptionName.ofLong? (text.takeWhile (· ≠ '=')), value with
  | .switch switch, none => some (.options [switch] none)
  | .switch _, some _ => none
  | .setting setting, value => some (.options [] (some (setting, value)))

/-- The meaning of an argument, unless it looks like an option and is none. A single hyphen is a plain
argument. -/
def ofText? (text : String) : Option Argument :=
  match text.toList with
  | ['-', '-'] => some .endOfOptions
  | '-' :: '-' :: rest => ofLong? rest
  | '-' :: c :: rest => ofShort? (c :: rest)
  | _ => some (.plain text)

end Argument

namespace Options

def has (options : Options) (switch : Switch) : Bool := options.switches.contains switch

def turnOn? (options : Options) (switch : Switch) : Option Options :=
  if options.has switch then none else some { options with switches := switch :: options.switches }

def fill? (place : Option String) (value : String) : Option (Option String) :=
  match place with
  | none => some (some value)
  | some _ => none

def give? (options : Options) (value : String) : Setting → Option Options
  | .purpose => (fill? options.purpose value).map fun purpose => { options with purpose }
  | .outcome => (fill? options.outcome value).map fun outcome => { options with outcome }
  | .service => some { options with services := options.services ++ [value] }
  | .parameter => some { options with parameters := options.parameters ++ [value] }
  | .configuration =>
    (fill? options.configuration value).map fun configuration => { options with configuration }
  | .output => (fill? options.output value).map fun output => { options with output }

def describe? (options : Options) (description : String) : Option Options :=
  (fill? options.description description).map fun description => { options with description }

/-- Reads further arguments. The value of a setting must not look like an option. -/
def readFrom? (options : Options) : List String → Option Options
  | [] => some options
  | argument :: rest => do
    match ← Argument.ofText? argument with
    | .plain text => readFrom? (← options.describe? text) rest
    | .endOfOptions => rest.foldlM describe? options
    | .options switches setting =>
      let options ← switches.foldlM turnOn? options
      match setting, rest with
      | none, rest => readFrom? options rest
      | some (setting, some value), rest => readFrom? (← options.give? value setting) rest
      | some (_, none), [] => none
      | some (setting, none), following :: rest =>
        match ← Argument.ofText? following with
        | .plain value => readFrom? (← options.give? value setting) rest
        | _ => none

def ofArguments? (arguments : List String) : Option Options := readFrom? {} arguments

end Options

end WorkflowSynthesis
