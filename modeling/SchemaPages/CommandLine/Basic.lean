import SchemaPages.CommandLine.Help
import SchemaPages.CommandLine.Options
import SchemaPages.Generation.Run
import SchemaPages.Settings.Template
import SchemaPages.Text.ControlSequence

/-!
# The command line

`perform` carries out the arguments of a call and reports what is printed and how the call ends:
with 0 if all went well, with 1 if a run failed, and with 2 if the arguments are wrong. Control
sequences of a terminal are dropped from what is printed. Notes about the progress go to standard
error in front of everything else, if they are asked for, and as they are.

Options are first told apart and then looked at in the order in which they are given, except that
a request for help or for the version goes before all others.

A call can also be interrupted from outside, and then ends with 1 after the text `Aborted.`. Nothing
here asks a user for anything, so no host interrupts a call, and this end has no counterpart.
-/

namespace SchemaPages.CommandLine

open Files (Path)
open Host (Action Attempt Failed Breakdown Note)

/-! ### Reports -/

/-- How a call ends and what it prints. -/
structure Report where
  /-- The exit code, unless the call breaks down. -/
  exit : Except Breakdown Nat
  stdout : String
  stderr : String
  /-- Whether the notes are printed. -/
  verbose : Bool := false

namespace Report

/-- All went well. -/
def success (stdout : String) : Report :=
  { exit := .ok 0, stdout, stderr := "" }

/-- A run failed. -/
def failure (message : String) : Report :=
  { exit := .ok 1, stdout := "", stderr := message ++ "\n" }

/-- The call broke down. -/
def breakdown (cause : Breakdown) : Report :=
  { exit := .error cause, stdout := "", stderr := "" }

/-- Something is wrong with the arguments. -/
def misuse (stderr : String) : Report :=
  { exit := .ok 2, stdout := "", stderr }

/-- The report without what a terminal would take for instructions. -/
def withoutControls (report : Report) : Report :=
  { report with
    stdout := Text.withoutControls report.stdout
    stderr := Text.withoutControls report.stderr }

end Report

/-- What is wrong with the arguments. -/
inductive UsageError where
  | option (error : OptionError)
  | extraArguments (arguments : List String)
  | missingCommand
  | unknownCommand (name : String)
  | notInteger (text : String)
  | notPositive (value : Int)
  | notDirectory (text : String)
  deriving DecidableEq, Repr

/-- The text of an error. -/
def UsageError.message : UsageError → String
  | .option error => error.message
  | .extraArguments [argument] => "Got unexpected extra argument (" ++ argument ++ ")"
  | .extraArguments arguments =>
    "Got unexpected extra arguments (" ++ " ".intercalate arguments ++ ")"
  | .missingCommand => "Missing command."
  | .unknownCommand name => "No such command " ++ Text.quoted name ++ "."
  | .notInteger text =>
    "Invalid value for '--timeout': " ++ Text.quoted text ++ " is not a valid integer range."
  | .notPositive value =>
    "Invalid value for '--timeout': " ++ toString value ++ " is not in the range x>=1."
  | .notDirectory text =>
    "Invalid value for '--out-dir' / '-o': Directory " ++ Text.quoted text ++ " is a file."

/-- Whether the use of the command is shown with an error; not where a value is missing or too
much. -/
def UsageError.showsUsage : UsageError → Bool
  | .option (.valueMissing _) => false
  | .option (.valueNotTaken _) => false
  | _ => true

/-- Reports an error in the use of the program or of a command. -/
def Report.usage (command : Option Command) (error : UsageError) : Report :=
  .misuse ((if error.showsUsage then usageHint command else "") ++
    "Error: " ++ error.message ++ "\n")

/-! ### Rendering -/

/-- The options of the command that renders. -/
inductive RenderOption where
  | url
  | json
  | schema
  | header
  | outDir
  | frontMatter
  | config
  | timeout
  | verbose
  | help
  deriving DecidableEq, Repr

/-- How the options are written. -/
def renderSwitches : List (Switch RenderOption) :=
  [⟨.url, "--url", some 'u', true⟩, ⟨.json, "--json", some 'j', true⟩,
   ⟨.schema, "--schema", some 's', true⟩, ⟨.header, "--header", some 'H', true⟩,
   ⟨.outDir, "--out-dir", some 'o', true⟩, ⟨.frontMatter, "--front-matter", some 'f', true⟩,
   ⟨.config, "--config", some 'c', true⟩, ⟨.timeout, "--timeout", none, true⟩,
   ⟨.verbose, "--verbose", some 'v', false⟩, ⟨.help, "--help", some 'h', false⟩]

/-- The seconds that a text says, however many digits it has. -/
def parseTimeout (text : String) : Except UsageError Int :=
  match Number.readInt 10 text with
  | none => .error (.notInteger text)
  | some n => if n < 1 then .error (.notPositive n) else .ok n

/-- Whether a text leads to a file. A slash at its end makes it the way to a directory, and one that
is too long leads nowhere, even if its path is shorter. -/
def leadsToFile (text : String) : Action Bool := do
  let isOpen := text.toList.getLast? = some '/' || text.toList.reverse.take 2 = ['.', '/']
  if text = "" || isOpen || Files.Tree.isTooLong text then return false
  else
    match ← Action.request (.status (Path.ofString text)) with
    | .ok .file => return true
    | _ => return false

/-- Checks the value of an option. -/
def checkOption (given : Given RenderOption) : RenderOption → Attempt UsageError Unit
  | .outDir => do
    let text := (given.value? .outDir).getD ""
    if ← Attempt.of (leadsToFile text) then throw (.notDirectory text)
  | .timeout => discard (Attempt.check (parseTimeout ((given.value? .timeout).getD "")) id)
  | _ => return

/-- What the options ask for. -/
def requestOf (given : Given RenderOption) : Generation.Request :=
  { configPath := given.value? .config
    url := given.value? .url
    jsonPath := given.value? .json
    schemaPath := given.value? .schema
    headers := given.values .header
    outDir := given.value? .outDir
    frontMatter := given.value? .frontMatter
    timeoutSeconds := (given.value? .timeout).bind fun text => (parseTimeout text).toOption }

/-- What a run prints: its documents, or the files that it has written. -/
def outcomeText (outcome : Generation.Outcome) : String :=
  outcome.stdoutText.getD (String.join (outcome.writtenPaths.map fun path => path.text ++ "\n"))

/-- Does what the options ask for. -/
def performRun (given : Given RenderOption) : Action Report := do
  let report ← match ← (Generation.run (requestOf given)).run with
    | .ok outcome => pure (Report.success (outcomeText outcome))
    | .error (.reported error) => pure (Report.failure error.message)
    | .error (.broken cause) => pure (Report.breakdown cause)
  return { report with verbose := given.has .verbose }

/-- Checks the options in the order in which they are given, and that nothing else is given. -/
def checkRender (given : Given RenderOption) : Attempt UsageError Unit := do
  given.keys.forM (checkOption given)
  if !given.positional.isEmpty then throw (.extraArguments given.positional)

/-- Carries out the command that renders. -/
def performRender (arguments : List String) : Action Report := do
  let command := some Command.render
  match divide renderSwitches true arguments with
  | .error error => return .usage command (.option error)
  | .ok given =>
    if given.has .help then return .success (helpText command)
    else
      match ← (checkRender given).run with
      | .error error => return .usage command error
      | .ok () => performRun given

/-! ### The other commands -/

/-- The options of the command that writes a configuration template. -/
inductive TemplateOption where
  | output
  | help
  deriving DecidableEq, Repr

/-- How the options are written. -/
def templateSwitches : List (Switch TemplateOption) :=
  [⟨.output, "--output", none, true⟩, ⟨.help, "--help", some 'h', false⟩]

/-- Writes the template. -/
def performTemplate (path : String) : Action Report := do
  match ← (Settings.writeTemplate path).run with
  | .ok written => return .success (written.text ++ "\n")
  | .error (.reported error) => return .failure error.message
  | .error (.broken (.files failure)) => return .failure failure.message
  | .error (.broken cause) => return .breakdown cause

/-- Carries out the command that writes a configuration template. -/
def performGenerateConfig (arguments : List String) : Action Report := do
  let command := some Command.generateConfig
  match divide templateSwitches true arguments with
  | .error error => return .usage command (.option error)
  | .ok given =>
    if given.has .help then return .success (helpText command)
    else if !given.positional.isEmpty then
      return .usage command (.extraArguments given.positional)
    else performTemplate ((given.value? .output).getD Settings.defaultFileName)

/-- The only option of the command that prints the query. -/
inductive QueryOption where
  | help
  deriving DecidableEq, Repr

/-- How the option is written. -/
def querySwitches : List (Switch QueryOption) :=
  [⟨.help, "--help", some 'h', false⟩]

/-- Carries out the command that prints the query. -/
def performIntrospectionQuery (arguments : List String) : Report :=
  let command := some Command.introspectionQuery
  match divide querySwitches true arguments with
  | .error error => .usage command (.option error)
  | .ok given =>
    if given.has .help then .success (helpText command)
    else if !given.positional.isEmpty then .usage command (.extraArguments given.positional)
    else .success Introspection.query

/-! ### The program -/

/-- The options of the program itself. -/
inductive ProgramOption where
  | version
  | help
  deriving DecidableEq, Repr

/-- How the options are written. -/
def programSwitches : List (Switch ProgramOption) :=
  [⟨.version, "--version", none, false⟩, ⟨.help, "--help", some 'h', false⟩]

/-- What the first option of the program prints. -/
def optionReport? (given : Given ProgramOption) : Option Report :=
  given.keys.head?.map fun key =>
    match key with
    | .version => .success versionText
    | .help => .success (helpText none)

/-- Carries out a command. -/
def performCommand (command : Command) (arguments : List String) : Action Report :=
  match command with
  | .render => performRender arguments
  | .generateConfig => performGenerateConfig arguments
  | .introspectionQuery => return performIntrospectionQuery arguments

/-- Reports a command that does not exist. Where it looks like an option, it may be one. -/
def unknownCommand (name : String) (arguments : List String) : Report :=
  let refused := Report.usage none (.unknownCommand name)
  if isOption name.toList then
    match divide programSwitches false (name :: arguments) with
    | .error error => .usage none (.option error)
    | .ok given => (optionReport? given).getD refused
  else refused

/-- Finds the command of a call and carries it out. -/
def dispatch (arguments : List String) : Action Report :=
  if arguments.isEmpty then return .misuse (helpText none)
  else
    match divide programSwitches false arguments with
    | .error error => return .usage none (.option error)
    | .ok given =>
      match optionReport? given with
      | some report => return report
      | none =>
        match given.positional with
        | [] => return .usage none .missingCommand
        | name :: rest =>
          match Command.ofName? name with
          | some command => performCommand command rest
          | none => return unknownCommand name rest

/-- Carries out the arguments of a call. -/
def perform (arguments : List String) : Action Report := do
  return (← dispatch arguments).withoutControls

/-! ### Notes -/

/-- The text of a level. -/
def levelText : Host.Level → String
  | .debug => "DEBUG"
  | .info => "INFO"
  | .warning => "WARNING"

/-- The name under which a part of the program takes its notes. -/
def topicText : Host.Topic → String
  | .transport => "gumwood.schema_sources.introspection_transport"
  | .source => "gumwood.schema_sources.schema_loader"
  | .generation => "gumwood.generation_run.generation_run_use_case"
  | .output => "gumwood.output_writing.document_writer"

/-- The line of a note. -/
def noteLine (note : Note) : String :=
  levelText note.level ++ " " ++ topicText note.topic ++ ": " ++ note.message ++ "\n"

/-- All that is printed to standard error. -/
def Report.errorText (report : Report) (notes : List Note) : String :=
  (if report.verbose then String.join (notes.map noteLine) else "") ++ report.stderr

end SchemaPages.CommandLine
