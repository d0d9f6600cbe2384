import DocQuery.Cluster.Http
import DocQuery.CommandLine.Dialogue
import DocQuery.Session.Trace
import Std.Async.DNS
import Std.Async.TCP
import Std.Async.Timer

/-!
# The program

Reads the command line, connects to the hosts, and carries out the dialogue with
them. Results go to the standard output; the log and failures go to the standard
error stream. Only connections without encryption are spoken.
-/

namespace DocQuery.Main

open Std.Async Cluster CommandLine

/-- The address of a socket of a host. -/
def socketAddress (address : Std.Net.IPAddr) (port : UInt16) : Std.Net.SocketAddress :=
  match address with
  | .v4 address => .v4 ⟨address, port⟩
  | .v6 address => .v6 ⟨address, port⟩

/-- Everything that a host sends until it closes the connection. -/
partial def receiveAll (client : TCP.Socket.Client) (received : ByteArray) : Async ByteArray := do
  match ← client.recv? 65536 with
  | none => return received
  | some more => if more.isEmpty then return received else receiveAll client (received ++ more)

/-- How many milliseconds a host may take to accept a connection. -/
def connectTimeout : Nat := 1000

/-- Runs an action for a limited time. -/
def within {α : Type} (milliseconds : Nat) (action : Async α) : Async (Option α) :=
  Async.race (some <$> action) (do
    sleep (.ofNat milliseconds)
    return none)

/-- Sends a request to its host and waits for the reply. -/
def exchange (request : WebRequest) : Async Exchanged := do
  let url := request.url
  if url.scheme = .https then return .error ["encrypted connections are not supported"]
  try
    let port := url.port.getD url.scheme.defaultPort
    let name := String.ofList (url.host.text.toList.filter fun c => c != '[' && c != ']')
    let addresses ← DNS.getAddrInfo name (Text.natText port)
    let some address := addresses[0]? | return .error ["the host has no address"]
    let client ← TCP.Socket.Client.mk
    let connected ← within connectTimeout (client.connect (socketAddress address port.toUInt16))
    if connected.isNone then return .error ["the host does not accept the connection"]
    client.send ⟨request.bytes.toArray⟩
    let received ← receiveAll client .empty
    match WebReply.ofBytes? received.toList with
    | some reply => return .ok reply
    | none => return .error ["the reply of the host is incomplete"]
  catch error => return .error [toString error]

/-- The name of a level in the log. -/
def levelName : Level → String
  | .debug => "DEBUG"
  | .info => "INFO"
  | .warn => "WARN"

/-- Writes events to the log, except for those of the lowest level. -/
def note (events : List Event) : IO Unit := do
  for event in events do
    if event.level != .debug then
      let fields := event.fields.map fun (name, value) => " " ++ name ++ "=" ++ value
      IO.eprintln (levelName event.level ++ " " ++ event.message ++ String.join fields)

/-- Asks the host whose turn it is, before the configured deadline. -/
def ask (config : Config) (connection : Connection) (operation : Operation) :
    IO (Except Error Response) := do
  let call := Call.through config operation
  note call.made.events
  let action := exchange (connection.request operation)
  let exchanged ←
    match config.requestTimeout with
    | none => some <$> action.block
    | some timeout => (within timeout action).block
  let delivery : Delivery :=
    match exchanged with
    | some exchanged => .prompt (respond operation exchanged)
    | none => .cutOff
  note (call.answered delivery).events
  return (call.passes delivery).answer operation

/-- Carries out a dialogue. -/
def converse (config : Config) : Connection → Dialogue → IO (Except Failure String)
  | _, .done result => return result
  | connection, .note events next => do
    note events
    converse config connection next
  | connection, .ask operation resume => do
    let answer ← ask config connection operation
    converse config connection.afterRequest (resume answer)

/-- The variables that options may come from, with their values. -/
def readEnvironment : IO (List (String × String)) := do
  let names := connectSpecs.filterMap OptionSpec.fallback
  names.filterMapM fun name => do
    return (← IO.getEnv name).map fun value => (name, value)

/-- What the program understands. -/
def usageText : String :=
  "usage: docquery [OPTIONS] schema\n" ++
    "       docquery [OPTIONS] query FIELD [--args JSON] [--select PATHS]\n" ++
    "options:\n" ++
    String.join (connectSpecs.map fun option => "  --" ++ option.name ++ " VALUE\n")

/-- Carries out a command line that was understood. -/
def carryOut (invocation : Invocation) : IO UInt32 := do
  let result ←
    match Dialogue.connect invocation with
    | .error failure => pure (.error failure)
    | .ok connection =>
      converse invocation.connect.config connection (.ofInvocation invocation)
  match result with
  | .ok text =>
    IO.print text
    return 0
  | .error failure =>
    IO.eprintln ("Error: " ++ "\nCaused by: ".intercalate failure.texts)
    return 1

end DocQuery.Main

open DocQuery in
def main (arguments : List String) : IO UInt32 := do
  let environment ← Main.readEnvironment
  match CommandLine.Invocation.read (fun name => Entries.find? name environment) arguments with
  | .ok invocation => Main.carryOut invocation
  | .error .helpRequested =>
    IO.print Main.usageText
    return 0
  | .error .versionRequested =>
    IO.println "docquery"
    return 0
  | .error fault =>
    IO.eprintln ("error: " ++ fault.message ++ "\n" ++ Main.usageText)
    return 2
