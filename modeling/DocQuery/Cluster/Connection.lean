import DocQuery.Cluster.Answer
import DocQuery.Cluster.Endpoint

/-!
# Connections to a cluster

A cluster is reached over a list of hosts. Requests go to the hosts in turn; a
request that fails is not sent again.
-/

namespace DocQuery.Cluster

/-- The hosts of a cluster, and whose turn it is. -/
structure Connection where
  first : Url
  others : List Url
  /-- How many requests were made. -/
  requests : Nat

namespace Connection

/-- All hosts. -/
def hosts (connection : Connection) : List Url := connection.first :: connection.others

/-- An address that cannot be connected to. -/
def refused (text : String) : Error := .of (.invalidConnectionUrl text)

/-- Reads the address of a host; only addresses on the web are spoken to. -/
def readHost (text : String) : Except Error Url :=
  match Address.read text with
  | .error fault => .error (refused (text ++ ": " ++ fault.message))
  | .ok (.foreign scheme) =>
    .error (refused ("unsupported scheme `" ++ scheme ++ "` in " ++ text))
  | .ok (.web url) => .ok url

/-- The addresses in a list with commas; empty ones do not count. -/
def hostTexts (list : String) : List String :=
  ((Text.split ',' list).map Text.trim).filter fun host => !host.isEmpty

/-- Connects to the hosts of a list. -/
def ofHosts (list : String) : Except Error Connection := do
  match ← (hostTexts list).mapM readHost with
  | [] => .error (refused "no hosts given")
  | first :: others => .ok ⟨first, others, 0⟩

/-- The host whose turn it is. -/
def host (connection : Connection) : Url :=
  connection.hosts.get ⟨connection.requests % connection.hosts.length,
    Nat.mod_lt _ (Nat.succ_pos _)⟩

/-- The request for an operation, to the host whose turn it is. -/
def request (connection : Connection) (operation : Operation) : WebRequest :=
  Cluster.request connection.host operation

/-- The connection after a request. -/
def afterRequest (connection : Connection) : Connection :=
  { connection with requests := connection.requests + 1 }

end Connection

/-- What a host answers: a reply, or the texts of the failure to reach it, outermost first. -/
abbrev Exchanged := Except (List String) WebReply

/-- The response to an operation, given what the host answered. -/
def respond (operation : Operation) : Exchanged → Except Error Response
  | .ok reply => readReply operation reply
  | .error chain => .error (.of (.transport chain))

end DocQuery.Cluster
