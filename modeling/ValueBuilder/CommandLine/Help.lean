import ValueBuilder.CommandLine.Basic

/-!
# Help

Short texts for whoever asks for help or mistypes a command line.
-/

namespace ValueBuilder.CommandLine

/-- The commands and their options. -/
def usage : List String :=
  ["Usage: javabuilder-gen [OPTIONS] <COMMAND>",
    "",
    "Commands:",
    "  list properties  List every declared property with its type and strategy",
    "      -i, --input <FILE>      The declaration file",
    "  generate         Generate builder superclasses from a declaration file",
    "      -i, --input <FILE>      The declaration file",
    "      -o, --output <DIR>      The root directory of the generated files",
    "      --source-level <LEVEL>  java6 or java7",
    "      --only <TYPES>          The types to generate, with commas between them",
    "      -v, --verbose           Tell more",
    "      -q, --quiet             Tell nothing",
    "  help             Print this text",
    "",
    "Options:",
    "      --color <COLOR>         always, auto or never",
    "      --theme <THEME>         dark, light or auto",
    "  -h, --help                  Print this text",
    "  -V, --version               Print the version"]

/-- The name and the version of the program. -/
def version : String := "javabuilder-gen 0.1.0"

namespace UsageError

/-- Whether the command line asked for a text instead of a command. -/
def isRequest : UsageError → Bool
  | helpRequested | versionRequested => true
  | _ => false

/-- The lines to print. -/
def lines : UsageError → List String
  | helpRequested | helpInsteadOfCommand => usage
  | versionRequested => [version]
  | missingCommand => ["error: a command is missing"]
  | unknownCommand => ["error: unknown command"]
  | unknownArgument => ["error: unexpected argument"]
  | invalidValue => ["error: an option has no value or an invalid one"]
  | refusedValue => ["error: unknown source level"]
  | valueOfSwitch => ["error: an option that takes no value has one"]
  | repeatedOption => ["error: an option cannot be used several times"]
  | missingOption => ["error: a required option is missing"]

end UsageError

end ValueBuilder.CommandLine
