import DocQuery.Text.Blank
import DocQuery.Text.Digits

/-!
# The grammar of command lines

A command line has options with values, positional arguments and subcommands.
An option is written `--name value` or `--name=value`; its value is looked at
when the next option begins, or at the end. Behind two hyphens by themselves
everything is positional. Options that are not given may come from variables of
the environment.
-/

namespace DocQuery.CommandLine

/-- Why a command line is not carried out. -/
inductive UsageFault where
  | helpRequested
  | versionRequested
  /-- A value is missing, or is none of the possible ones. -/
  | invalidValue
  /-- A value that is no number of the right size. -/
  | malformedNumber
  | unknownArgument
  /-- A value for an option that takes none. -/
  | unexpectedValue
  /-- An option is given twice. -/
  | repeatedOption
  | unknownSubcommand
  | missingArgument
  | missingSubcommand
  /-- Nothing is given where a subcommand is needed. -/
  | nothingGiven
  deriving DecidableEq, Repr

/-- The wording of a fault. -/
def UsageFault.message : UsageFault → String
  | .helpRequested => "help was asked for"
  | .versionRequested => "the version was asked for"
  | .invalidValue => "a value is missing or is not possible"
  | .malformedNumber => "a value is not a number"
  | .unknownArgument => "an argument is not known"
  | .unexpectedValue => "an option does not take a value"
  | .repeatedOption => "an option is given twice"
  | .unknownSubcommand => "a subcommand is not known"
  | .missingArgument => "an argument is missing"
  | .missingSubcommand => "a subcommand is missing"
  | .nothingGiven => "nothing is given"

/-- What the value of an option may be. -/
inductive ValueKind where
  | text
  /-- `true` or `false`. -/
  | boolean
  /-- A number of 64 bits without a sign. -/
  | number
  /-- Texts with commas between them; the option may be repeated. -/
  | list
  deriving DecidableEq, Repr

/-- A number of 64 bits without a sign. -/
def readWord? (text : String) : Option Nat := do
  let n ← Text.readUnsigned? text.toList
  if n < 0x1_0000_0000_0000_0000 then some n else none

/-- Refuses values that are not of a kind. -/
def ValueKind.check (kind : ValueKind) (value : String) : Except UsageFault Unit :=
  match kind with
  | .text | .list => .ok ()
  | .boolean => if value = "true" ∨ value = "false" then .ok () else .error .invalidValue
  | .number => if (readWord? value).isSome then .ok () else .error .malformedNumber

/-- An option. -/
structure OptionSpec where
  /-- The name, without the hyphens in front. -/
  name : String
  kind : ValueKind
  /-- The variable of the environment that stands in for the option. -/
  fallback : Option String
  deriving DecidableEq, Repr

/-- What may be written. -/
structure Grammar where
  options : List OptionSpec
  /-- How many positional arguments there may be. -/
  positionals : Nat
  subcommands : List String
  /-- Whether the version can be asked for. -/
  hasVersion : Bool

/-- What has been read so far. -/
structure Progress where
  /-- Options with their values, in order. -/
  given : List (String × String)
  /-- An option whose value has not been looked at, or not been given yet. -/
  pending : Option (OptionSpec × Option String)
  positionals : List String
  /-- Whether everything else is positional. -/
  trailing : Bool

namespace Progress

/-- Nothing has been read. -/
def start : Progress := ⟨[], none, [], false⟩

/-- Whether the next argument may be the value of an option. -/
def awaitsValue (progress : Progress) : Bool :=
  match progress.pending with
  | some (_, none) => true
  | _ => false

/-- Takes an option with its value. -/
def accept (progress : Progress) (option : OptionSpec) (value : String) :
    Except UsageFault Progress := do
  if option.kind != .list && (progress.given.map Prod.fst).contains option.name then
    .error .repeatedOption
  option.kind.check value
  .ok { progress with given := progress.given ++ [(option.name, value)], pending := none }

/-- Looks at the value of the pending option. -/
def settle (progress : Progress) : Except UsageFault Progress :=
  match progress.pending with
  | none => .ok progress
  | some (_, none) => .error .invalidValue
  | some (option, some value) => progress.accept option value

/-- The values of an option, in order. -/
def valuesOf (progress : Progress) (name : String) : List String :=
  (progress.given.filter fun entry => entry.1 == name).map Prod.snd

end Progress

namespace Grammar

/-- The option with a given name. -/
def option? (grammar : Grammar) (name : String) : Option OptionSpec :=
  grammar.options.find? fun option => option.name == name

/-- Whether an argument names a subcommand; where there are any, `help` is one. -/
def isSubcommand (grammar : Grammar) (argument : String) : Bool :=
  !grammar.subcommands.isEmpty && (argument == "help" || grammar.subcommands.contains argument)

/-- Reads an argument that starts with two hyphens. -/
def readLong (grammar : Grammar) (progress : Progress) (argument : List Char) :
    Except UsageFault Progress := do
  let (name, rest) := argument.span (· != '=')
  let value := if rest.isEmpty then none else some (String.ofList rest.tail)
  let name := String.ofList name
  if name = "help" ∨ (name = "version" ∧ grammar.hasVersion) then
    if value.isSome then .error .unexpectedValue
    let _ ← progress.settle
    .error (if name = "help" then .helpRequested else .versionRequested)
  else
    match grammar.option? name with
    | none => .error .unknownArgument
    | some option =>
      let progress ← progress.settle
      match value with
      | some value => progress.accept option value
      | none => .ok { progress with pending := some (option, none) }

/-- Reads an argument that starts with one hyphen. -/
def readShort (grammar : Grammar) (progress : Progress) (letter : Char) :
    Except UsageFault Progress := do
  if letter = 'h' ∨ (letter = 'V' ∧ grammar.hasVersion) then
    let _ ← progress.settle
    .error (if letter = 'h' then .helpRequested else .versionRequested)
  else .error .unknownArgument

/-- Reads an argument that is no option: a value that is awaited, or a positional one. -/
def readPlain (grammar : Grammar) (progress : Progress) (argument : String) :
    Except UsageFault Progress :=
  match progress.trailing, progress.pending with
  | false, some (option, none) => .ok { progress with pending := some (option, some argument) }
  | _, _ =>
    if progress.positionals.length < grammar.positionals then do
      let progress ← progress.settle
      .ok { progress with positionals := progress.positionals ++ [argument] }
    else if grammar.subcommands.isEmpty || grammar.isSubcommand argument then
      .error .unknownArgument
    else .error .unknownSubcommand

/-- Reads one argument. -/
def readArgument (grammar : Grammar) (progress : Progress) (argument : String) :
    Except UsageFault Progress :=
  if progress.trailing then grammar.readPlain progress argument
  else
    match argument.toList with
    | ['-', '-'] => .ok { progress with trailing := true }
    | '-' :: '-' :: rest => grammar.readLong progress rest
    | '-' :: letter :: _ => grammar.readShort progress letter
    | _ => grammar.readPlain progress argument

/-- Reads arguments up to a subcommand, which is given with what follows it. -/
def scan (grammar : Grammar) :
    Progress → List String → Except UsageFault (Progress × Option (String × List String))
  | progress, [] => .ok (progress, none)
  | progress, argument :: rest =>
    if grammar.isSubcommand argument && !progress.trailing && !progress.awaitsValue then
      .ok (progress, some (argument, rest))
    else do
      let progress ← grammar.readArgument progress argument
      grammar.scan progress rest

/-- Takes the option from its variable, unless it is given. -/
def fromVariable (environment : String → Option String) (progress : Progress)
    (option : OptionSpec) : Except UsageFault Progress :=
  if (progress.given.map Prod.fst).contains option.name then .ok progress
  else
    match option.fallback.bind environment with
    | none => .ok progress
    | some value => progress.accept option value

/-- Looks at what is pending, and takes options that are not given from the environment. -/
def finish (grammar : Grammar) (environment : String → Option String) (progress : Progress) :
    Except UsageFault Progress := do
  grammar.options.foldlM (fromVariable environment) (← progress.settle)

/-- Reads a whole command line without subcommands. -/
def read (grammar : Grammar) (environment : String → Option String) (arguments : List String) :
    Except UsageFault Progress := do
  let (progress, _) ← grammar.scan .start arguments
  grammar.finish environment progress

end Grammar

end DocQuery.CommandLine
