import DocQuery.Cluster.Connection
import DocQuery.CommandLine.Invocation
import DocQuery.Compile.Assembly
import DocQuery.Json.Describe
import DocQuery.Request.Plan
import DocQuery.Schema.Sdl

/-!
# Carrying out a command line

What the program does is a dialogue with the store: it asks one operation at a
time and goes on with the answer. The schema is built before the arguments of a
query are read.
-/

namespace DocQuery.CommandLine

/-- Why the program fails. -/
inductive Failure where
  /-- The schema cannot be built. -/
  | build (hosts : String) (error : Error)
  /-- The arguments of a query cannot be read. -/
  | arguments (error : Json.ReadError)
  /-- A query fails. -/
  | query (error : Error)

namespace Failure

/-- The texts of a failure, outermost first. -/
def texts : Failure → List String
  | .build hosts error => ["failed to build schema from " ++ hosts, error.message]
  | .arguments error => ["`--args` must be a JSON object", error.message]
  | .query error => [error.message]

/-- The error of the store behind a failure. -/
def storeError? : Failure → Option Error
  | .build _ error => some error
  | .arguments _ => none
  | .query error => some error

end Failure

/-- A program that asks the store. -/
inductive Dialogue where
  /-- The program ends with what is to be printed. -/
  | done (result : Except Failure String)
  /-- The program writes to the log and goes on. -/
  | note (events : List Event) (next : Dialogue)
  /-- The program asks an operation and goes on with the answer. -/
  | ask (operation : Operation) (resume : Except Error Response → Dialogue)

namespace Dialogue

/-- What is printed of the value of a root field. -/
def printed (field : String) (value : Json) : String :=
  (Json.object [(field, value)]).indented ++ "\n"

/-- Resolves a request. -/
def resolve (registry : Registry) (schema : Schema) (request : Request) : Dialogue :=
  match schema.resolver request.field with
  | .error error => .done (.error (.query error))
  | .ok resolver =>
    let finish := fun result : Except Error (Logged Json) =>
      match result with
      | .ok logged => Dialogue.note logged.events (.done (.ok (printed request.field logged.value)))
      | .error error => .done (.error (.query (resolver.failure error)))
    match resolver.plan registry request.arguments request.selection with
    | .error error => finish (.error error)
    | .ok (.answered value) => finish (.ok ⟨value, []⟩)
    | .ok (.asks operation reading) =>
      .ask operation fun answer =>
        finish (answer.bind (reading.read registry resolver.target))

/-- Carries out a subcommand under a schema. -/
def ofSubcommand (registry : Registry) (schema : Schema) : Subcommand → Dialogue
  | .schema => .done (.ok schema.sdl)
  | .query field arguments paths =>
    match Json.readObject arguments with
    | .error error => .done (.error (.arguments error))
    | .ok arguments =>
      resolve registry schema
        { field, arguments, selection := .ofPaths paths, timeout := none }

/-- Builds the schema and carries out the subcommand. -/
def ofInvocation (invocation : Invocation) : Dialogue :=
  let config := invocation.connect.config
  let fail := fun error : Error => Dialogue.done (.error (.build invocation.connect.hosts error))
  .ask (.getMappings config.includePattern) fun answer =>
    match answer.bind Response.asMappings with
    | .error error => fail error
    | .ok metadata =>
      let built := Compile.build config .empty metadata
      .note built.events <|
        match built.schema with
        | .error error => fail error
        | .ok schema => ofSubcommand built.registry schema invocation.subcommand

/-- Connects to the hosts that an invocation names. -/
def connect (invocation : Invocation) : Except Failure Cluster.Connection :=
  (Cluster.Connection.ofHosts invocation.connect.hosts).mapError
    (Failure.build invocation.connect.hosts)

end Dialogue

end DocQuery.CommandLine
