import ValueBuilder.CommandLine.Basic

/-!
# Reading command lines

Arguments are read from left to right.  The value of an option may be attached to it or be the next
argument.  A value that is an argument of its own is judged when the next option begins, or else
when the command's arguments and those of the commands below it have been read.
-/

namespace ValueBuilder.CommandLine

/-! ## Values -/

/-- Gives an option its value, which it must not have yet. -/
def assign {α : Type} (given : Option α) (value : Except UsageError α) :
    Except UsageError (Option α) := do
  if given.isSome then throw .repeatedOption
  return some (← value)

/-- Turns a switch on, which must be off. -/
def turnOn (given : Bool) : Except UsageError Bool :=
  if given then throw .repeatedOption else return true

/-- A value that must be one of a list of names. -/
def readName {α : Type} (names : List (String × α)) (value : String) : Except UsageError α :=
  match names.lookup value with
  | some a => .ok a
  | none => .error .invalidValue

/-- A path, which must not be empty. -/
def readPath (value : String) : Except UsageError String :=
  if value.isEmpty then .error .invalidValue else .ok value

/-- A language version. -/
def readSourceLevel (value : String) : Except UsageError SourceLevel :=
  (SourceLevel.parse value).mapError fun _ => .refusedValue

/-- Takes the value of an option.  Only type names may be given in several lists. -/
def Given.set (given : Given) (value : String) : Setting → Except UsageError Given
  | .color => return { given with color := ← assign given.color (readName ColorMode.names value) }
  | .theme => return { given with theme := ← assign given.theme (readName ThemeMode.names value) }
  | .input => return { given with input := ← assign given.input (readPath value) }
  | .output => return { given with output := ← assign given.output (readPath value) }
  | .sourceLevel =>
    return { given with sourceLevel := ← assign given.sourceLevel (readSourceLevel value) }
  | .only => return { given with only := some (given.only.getD [] ++ parts ',' value) }

/-! ## Progress -/

/-- What has been read of a command's arguments. -/
structure Progress where
  given : Given := {}
  /-- The option that is to be judged, and its value if that has come. -/
  pending : Option (Setting × Option String) := none
  /-- Whether an argument said that no options follow. -/
  endsOptions : Bool := false

namespace Progress

/-- Whether the next argument may be the value of an option. -/
def awaitsValue (progress : Progress) : Bool :=
  match progress.pending with
  | some (_, none) => !progress.endsOptions
  | _ => false

/-- Judges the pending option, which needs a value. -/
def settle (progress : Progress) : Except UsageError Given :=
  match progress.pending with
  | none => .ok progress.given
  | some (_, none) => .error .invalidValue
  | some (setting, some value) => progress.given.set value setting

/-- Takes a switch. -/
def switch (progress : Progress) (s : Switch) : Except UsageError Progress := do
  let given ← progress.settle
  match s with
  | .help => throw .helpRequested
  | .version => throw .versionRequested
  | .verbose => return { given := { given with verbose := ← turnOn given.verbose } }
  | .quiet => return { given := { given with quiet := ← turnOn given.quiet } }

/-- Takes an option whose value, if it is attached, is judged at once. -/
def setting (progress : Progress) (s : Setting) (attached : Option String) :
    Except UsageError Progress := do
  let given ← progress.settle
  match attached with
  | some value => return { given := ← given.set value s }
  | none => return { given, pending := some (s, none) }

/-- Takes the value that an option awaits. -/
def value (progress : Progress) (s : String) : Progress :=
  { progress with pending := progress.pending.map fun (setting, _) => (setting, some s) }

end Progress

/-! ## Options -/

/-- The name and the attached value of what stands behind two hyphens. -/
def nameAndValue (body : List Char) : String × Option String :=
  let name := String.ofList (body.takeWhile (· != '='))
  match body.dropWhile (· != '=') with
  | [] => (name, none)
  | _ :: value => (name, some (String.ofList value))

/-- Reads an option behind two hyphens. -/
def readLong (level : Level) (progress : Progress) (body : List Char) :
    Except UsageError Progress :=
  let (name, attached) := nameAndValue body
  match level.longFlag? name, attached with
  | none, _ => .error .unknownArgument
  | some (.setting s), _ => progress.setting s attached
  | some (.switch _), some _ => .error .valueOfSwitch
  | some (.switch s), none => progress.switch s

/-- The value that letters behind an option's letter attach to it. -/
def attachedValue? : List Char → Option String
  | [] => none
  | '=' :: value => some (String.ofList value)
  | value => some (String.ofList value)

/-- Reads the option letters behind one hyphen.  The letters behind an option that takes a value
are its value. -/
def readShort (level : Level) (progress : Progress) : List Char → Except UsageError Progress
  | [] => .ok progress
  | letter :: letters =>
    match level.shortFlag? letter with
    | none => .error .unknownArgument
    | some (.setting s) => progress.setting s (attachedValue? letters)
    | some (.switch s) => do readShort level (← progress.switch s) letters

/-- Reads an argument that is no option, no value of one and no command. -/
def strayArgument (level : Level) (progress : Progress) (argument : String) : UsageError :=
  if progress.endsOptions && (level.children.lookup argument).isSome then .unknownArgument
  else if level.isOpen then .unknownCommand
  else .unknownArgument

/-- Reads an argument that is no command. -/
def readArgument (level : Level) (progress : Progress) (argument : String) :
    Except UsageError Progress :=
  if progress.endsOptions then .error (strayArgument level progress argument)
  else
    match argument.toList with
    | ['-', '-'] => .ok { progress with endsOptions := true }
    | '-' :: '-' :: body => readLong level progress body
    | '-' :: letter :: letters => readShort level progress (letter :: letters)
    | _ =>
      if progress.awaitsValue then .ok (progress.value argument)
      else .error (strayArgument level progress argument)

/-! ## Commands -/

/-- The command that an argument names. -/
def command? (level : Level) (progress : Progress) (argument : String) : Option Level :=
  if progress.endsOptions || progress.awaitsValue then none else level.children.lookup argument

/-- What is answered when another command is to be explained. -/
def explain (level : Level) : List String → UsageError
  | [] => .helpRequested
  | argument :: arguments =>
    match level.children.lookup argument with
    | some below => explain below arguments
    | none => .unknownCommand

/-- The value of an option that must be given. -/
def required {α : Type} : Option α → Except UsageError α
  | some a => .ok a
  | none => .error .missingOption

/-- The command of a level at which the arguments ended. -/
def finish (level : Level) (given : Given) : Except UsageError Command :=
  match level with
  | .listProperties => return .listProperties (← required given.input)
  | .generate =>
    return .generate {
      input := ← required given.input
      output := ← required given.output
      sourceLevel := given.sourceLevel.getD .java6
      only := given.only
      verbose := given.verbose
      quiet := given.quiet }
  | .root | .list | .help =>
    if given = {} then throw .helpInsteadOfCommand else throw .missingCommand

/-- A command and the options for colours, as far as they were given. -/
structure Parsed where
  color : Option ColorMode
  theme : Option ThemeMode
  command : Command

/-- Reads the arguments behind the words of a command. -/
def readLevel (level : Level) (progress : Progress) : List String → Except UsageError Parsed
  | [] => do
    let given ← progress.settle
    return ⟨given.color, given.theme, ← finish level given⟩
  | argument :: arguments =>
    match command? level progress argument with
    | some .help => .error (explain level arguments)
    | some below => do
      let parsed ← readLevel below {} arguments
      let given ← progress.settle
      return { parsed with
        color := parsed.color.or given.color
        theme := parsed.theme.or given.theme }
    | none => do readLevel level (← readArgument level progress argument) arguments

/-- Reads a command line, without the name of the program. -/
def parse (arguments : List String) : Except UsageError Invocation := do
  let parsed ← readLevel .root {} arguments
  return ⟨parsed.color.getD .auto, parsed.theme.getD .auto, parsed.command⟩

end ValueBuilder.CommandLine
