import DocQuery.CommandLine.Grammar
import DocQuery.CommandLine.Paths
import DocQuery.Config

/-!
# What the program is asked to do

In front of the subcommand stand the options that say how to connect and what
the schema is to hold. The subcommands print the schema or the value of a root
field.
-/

namespace DocQuery.CommandLine

/-- How to connect, and the settings. -/
structure ConnectOptions where
  /-- The hosts of the cluster, with commas between them. -/
  hosts : String
  config : Config
  deriving DecidableEq, Repr

/-- What to print. -/
inductive Subcommand where
  | schema
  /-- The value of a root field, with its arguments as text and its selection as paths. -/
  | query (field arguments : String) (paths : List String)
  deriving DecidableEq, Repr

/-- A command line that can be carried out. -/
structure Invocation where
  connect : ConnectOptions
  subcommand : Subcommand
  deriving DecidableEq, Repr

/-- The options that say how to connect. -/
def connectSpecs : List OptionSpec :=
  [⟨"hosts", .text, some "STURGEON_ELASTICSEARCH_HOSTS"⟩,
    ⟨"index-include-pattern", .text, some "STURGEON_ELASTICSEARCH_INDEX_INCLUDE_PATTERN"⟩,
    ⟨"field-ignore-prefix", .text, some "STURGEON_FIELD_IGNORE_PREFIX"⟩,
    ⟨"enable-aggregation-schema", .boolean, some "STURGEON_ENABLE_AGGREGATION_SCHEMA"⟩,
    ⟨"enable-query-logging", .boolean, some "STURGEON_ENABLE_QUERY_LOGGING"⟩,
    ⟨"enable-query-result-logging", .boolean, some "STURGEON_ENABLE_QUERY_RESULT_LOGGING"⟩,
    ⟨"request-timeout-ms", .number, some "STURGEON_REQUEST_TIMEOUT_MS"⟩]

/-- The options that say how to connect, and nothing else. -/
def connectGrammar : Grammar := ⟨connectSpecs, 0, [], false⟩

/-- The whole program. -/
def programGrammar : Grammar := ⟨connectSpecs, 0, ["schema", "query"], true⟩

/-- The subcommand that prints the schema. -/
def schemaGrammar : Grammar := ⟨[], 0, [], false⟩

/-- The subcommand that prints the value of a root field. -/
def queryGrammar : Grammar := ⟨[⟨"args", .text, none⟩, ⟨"select", .list, none⟩], 1, [], false⟩

namespace ConnectOptions

/-- The options as they were given, with defaults for those that were not. -/
def ofProgress (progress : Progress) : ConnectOptions :=
  let given? := fun name => (progress.valuesOf name).getLast?
  let flag := fun name default => ((given? name).map fun value => value == "true").getD default
  let config : Config :=
    { includePattern := (given? "index-include-pattern").getD "*"
      aggregations := flag "enable-aggregation-schema" true
      logQueries := flag "enable-query-logging" false
      logResults := flag "enable-query-result-logging" false
      requestTimeout := (given? "request-timeout-ms").bind readWord? }
  { hosts := (given? "hosts").getD "http://localhost:9200"
    config :=
      match given? "field-ignore-prefix" with
      | some start => config.ignoring start
      | none => config }

/-- Reads a command line of nothing but connection options. -/
def read (environment : String → Option String) (arguments : List String) :
    Except UsageFault ConnectOptions :=
  (connectGrammar.read environment arguments).map ofProgress

end ConnectOptions

namespace Invocation

/-- What asking for help on topics leads to. -/
def helpFault : List String → UsageFault
  | [] => .helpRequested
  | topic :: rest =>
    if programGrammar.isSubcommand topic then
      if rest.isEmpty then .helpRequested else .unknownSubcommand
    else .unknownSubcommand

/-- Reads the subcommand that prints the value of a root field. -/
def readQuery (arguments : List String) : Except UsageFault Subcommand := do
  let progress ← queryGrammar.read (fun _ => none) arguments
  match progress.positionals with
  | [] => .error .missingArgument
  | field :: _ =>
    .ok (.query field ((progress.valuesOf "args").getLast?.getD "\x7b\x7d")
      ((progress.valuesOf "select").flatMap (Text.split ',')))

/-- Reads a subcommand with what follows it. -/
def readSubcommand (name : String) (arguments : List String) : Except UsageFault Subcommand :=
  if name = "help" then .error (helpFault arguments)
  else if name = "schema" then
    (schemaGrammar.read (fun _ => none) arguments).map fun _ => .schema
  else readQuery arguments

/-- Reads a command line. Faults of the subcommand come before those of the options. -/
def read (environment : String → Option String) (arguments : List String) :
    Except UsageFault Invocation := do
  let (progress, rest) ← programGrammar.scan .start arguments
  match rest with
  | some (name, arguments) =>
    let subcommand ← readSubcommand name arguments
    let progress ← programGrammar.finish environment progress
    .ok ⟨.ofProgress progress, subcommand⟩
  | none =>
    let progress ← programGrammar.finish environment progress
    .error (if progress.given.isEmpty then .nothingGiven else .missingSubcommand)

end Invocation

end DocQuery.CommandLine
