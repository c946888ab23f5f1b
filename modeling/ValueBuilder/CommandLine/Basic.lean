import ValueBuilder.Console.Palette
import ValueBuilder.Source.Code

/-!
# Command lines

The program has nested commands.  Every command has its own options, and the options for colours
may stand behind any of them.  What can be wrong with a command line is known before anything runs.
-/

namespace ValueBuilder.CommandLine

/-! ## Commands -/

/-- The words of a command so far. -/
inductive Level
  | root
  | list
  | listProperties
  | generate
  /-- The command that explains another one. -/
  | help
  deriving Repr, DecidableEq

/-- The commands that may follow, by name. -/
def Level.children : Level → List (String × Level)
  | root => [("list", list), ("generate", generate), ("help", help)]
  | list => [("properties", listProperties), ("help", help)]
  | listProperties | generate | help => []

/-- Whether another command must follow. -/
def Level.isOpen (level : Level) : Bool :=
  !level.children.isEmpty

/-! ## Options -/

/-- Options that stand alone. -/
inductive Switch
  | help
  | version
  | verbose
  | quiet
  deriving Repr, DecidableEq

/-- Options that take a value. -/
inductive Setting
  | color
  | theme
  | input
  | output
  | sourceLevel
  | only
  deriving Repr, DecidableEq

/-- An option. -/
inductive Flag
  | switch (s : Switch)
  | setting (s : Setting)
  deriving Repr, DecidableEq

namespace Flag

/-- The name behind two hyphens. -/
def long : Flag → String
  | switch .help => "help"
  | switch .version => "version"
  | switch .verbose => "verbose"
  | switch .quiet => "quiet"
  | setting .color => "color"
  | setting .theme => "theme"
  | setting .input => "input"
  | setting .output => "output"
  | setting .sourceLevel => "source-level"
  | setting .only => "only"

/-- The letter behind one hyphen. -/
def short? : Flag → Option Char
  | switch .help => some 'h'
  | switch .version => some 'V'
  | switch .verbose => some 'v'
  | switch .quiet => some 'q'
  | setting .input => some 'i'
  | setting .output => some 'o'
  | setting .color | setting .theme | setting .sourceLevel | setting .only => none

end Flag

namespace Level

/-- The options of every command. -/
def commonFlags : List Flag :=
  [.switch .help, .setting .color, .setting .theme]

/-- The options of a command. -/
def flags : Level → List Flag
  | root => .switch .version :: commonFlags
  | list | help => commonFlags
  | listProperties => .setting .input :: commonFlags
  | generate =>
    [.setting .input, .setting .output, .setting .sourceLevel, .setting .only, .switch .verbose,
      .switch .quiet] ++ commonFlags

/-- The option of a name behind two hyphens. -/
def longFlag? (level : Level) (name : String) : Option Flag :=
  level.flags.find? (·.long == name)

/-- The option of a letter behind one hyphen. -/
def shortFlag? (level : Level) (letter : Char) : Option Flag :=
  level.flags.find? (·.short? == some letter)

end Level

/-! ## Results -/

/-- Why a command line is not carried out. -/
inductive UsageError
  | helpRequested
  | versionRequested
  /-- Nothing follows a command that needs another one. -/
  | helpInsteadOfCommand
  /-- Only options follow a command that needs another one. -/
  | missingCommand
  | unknownCommand
  | unknownArgument
  | invalidValue
  /-- The value was refused by the domain that it belongs to. -/
  | refusedValue
  /-- A switch was given a value. -/
  | valueOfSwitch
  | repeatedOption
  | missingOption
  deriving Repr, DecidableEq

/-- The values of the options of one command. -/
structure Given where
  color : Option ColorMode := none
  theme : Option ThemeMode := none
  input : Option String := none
  output : Option String := none
  sourceLevel : Option SourceLevel := none
  only : Option (List String) := none
  verbose : Bool := false
  quiet : Bool := false
  deriving Repr, DecidableEq

/-- The options of the command that generates files, as they were given. -/
structure GenerateOptions where
  input : String
  output : String
  sourceLevel : SourceLevel
  only : Option (List String)
  verbose : Bool
  quiet : Bool
  deriving Repr, DecidableEq

/-- A whole command with its options. -/
inductive Command
  | listProperties (input : String)
  | generate (options : GenerateOptions)
  deriving Repr, DecidableEq

/-- A command line that can be carried out. -/
structure Invocation where
  color : ColorMode
  theme : ThemeMode
  command : Command
  deriving Repr, DecidableEq

end ValueBuilder.CommandLine
