/-!
# Help texts

What the program says about itself and about each of its commands.
-/

namespace SchemaPages.CommandLine

/-- The name of the program. -/
def programName : String := "gumwood"

/-- The commands of the program. -/
inductive Command where
  | render
  | generateConfig
  | introspectionQuery
  deriving DecidableEq, Repr

/-- The name of a command. -/
def Command.name : Command → String
  | .render => "render"
  | .generateConfig => "generate-config"
  | .introspectionQuery => "introspection-query"

/-- The command with a name. -/
def Command.ofName? (name : String) : Option Command :=
  [Command.render, .generateConfig, .introspectionQuery].find? (·.name = name)

/-- How the program or one of its commands is called. -/
def callName : Option Command → String
  | none => programName
  | some command => programName ++ " " ++ command.name

/-- What may follow the call. -/
def callArguments : Option Command → String
  | none => "[OPTIONS] COMMAND [ARGS]..."
  | some _ => "[OPTIONS]"

/-- The line that shows how the program or a command is used. -/
def usageLine (command : Option Command) : String :=
  "Usage: " ++ callName command ++ " " ++ callArguments command ++ "\n"

/-- What the program or a command does, and its options. -/
def descriptionLines : Option Command → List String
  | none =>
    ["  Convert a GraphQL schema to Markdown.",
     "",
     "Options:",
     "  --version   Show the version and exit.",
     "  -h, --help  Show this message and exit.",
     "",
     "Commands:",
     "  generate-config      Generate a placeholder YAML configuration with...",
     "  introspection-query  Print the introspection query sent to GraphQL...",
     "  render               Render the schema into Markdown documents."]
  | some .render =>
    ["  Render the schema into Markdown documents.",
     "",
     "  Specify the source of the schema using --url, --json or --schema. Without a",
     "  source, the introspection response is read from stdin. With --out-dir, one",
     "  file per non-empty document is written; otherwise all documents are printed",
     "  to stdout.",
     "",
     "Options:",
     "  -u, --url TEXT           URL to introspect",
     "  -j, --json PATH          File containing an introspection response",
     "  -s, --schema PATH        GraphQL schema file",
     "  -H, --header TEXT        Header to send in the URL request, in name:value",
     "                           format; allows multiple",
     "  -o, --out-dir DIRECTORY  Output directory for one file per document",
     "  -f, --front-matter TEXT  Front matter for output files, as key:value pairs",
     "                           separated by ';'",
     "  -c, --config PATH        Path to a YAML configuration file",
     "  --timeout INTEGER RANGE  Seconds to wait for the introspection response",
     "                           [x>=1]",
     "  -v, --verbose            Log progress to stderr.",
     "  -h, --help               Show this message and exit."]
  | some .generateConfig =>
    ["  Generate a placeholder YAML configuration with guidance comments.",
     "",
     "Options:",
     "  --output PATH  Path to the YAML configuration template to write  [default:",
     "                 gumwood.yaml]",
     "  -h, --help     Show this message and exit."]
  | some .introspectionQuery =>
    ["  Print the introspection query sent to GraphQL servers.",
     "",
     "Options:",
     "  -h, --help  Show this message and exit."]

/-- The help text of the program or of a command. -/
def helpText (command : Option Command) : String :=
  usageLine command ++ "\n" ++ String.join ((descriptionLines command).map (· ++ "\n"))

/-- The version of the program. -/
def versionText : String :=
  programName ++ ", version 0.1.0\n"

/-- The lines in front of an error in the use of the program or of a command. -/
def usageHint (command : Option Command) : String :=
  usageLine command ++ "Try '" ++ callName command ++ " -h' for help.\n\n"

end SchemaPages.CommandLine
