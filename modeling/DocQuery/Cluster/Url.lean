import DocQuery.Cluster.Host
import DocQuery.Cluster.Path

/-!
# Addresses of hosts

An address on the web has a scheme, a host, a path, and optionally credentials,
a port, a query and a fragment. Reading follows the living standard for
addresses; letters of scheme and host are lower case and the default port is
left out. Of addresses with other schemes only the scheme is kept, after the
check that the address is well formed.
-/

namespace DocQuery.Cluster

/-- A scheme that is spoken to hosts. -/
inductive Scheme where
  | http
  | https
  deriving DecidableEq, Repr

namespace Scheme

/-- The name of a scheme. -/
def name : Scheme → String
  | .http => "http"
  | .https => "https"

/-- The port that goes without saying. -/
def defaultPort : Scheme → Nat
  | .http => 80
  | .https => 443

end Scheme

/-- An address on the web. -/
structure Url where
  scheme : Scheme
  /-- The user name, escaped; empty for none. -/
  username : String
  /-- The password, escaped; empty for none. -/
  password : String
  host : Host
  /-- The port, unless it is the default one. -/
  port : Option Nat
  /-- The segments of the path, escaped. -/
  path : List String
  query : Option String
  fragment : Option String
  deriving DecidableEq, Repr

/-- A well-formed address. -/
inductive Address where
  | web (url : Url)
  /-- An address with a scheme that is not spoken. -/
  | foreign (scheme : String)

namespace Url

/-- The credentials in front of a host. -/
def credentialsText (url : Url) : String :=
  if url.username.isEmpty && url.password.isEmpty then ""
  else if url.password.isEmpty then url.username ++ "@"
  else url.username ++ ":" ++ url.password ++ "@"

/-- The port behind a host. -/
def portText (url : Url) : String :=
  match url.port with
  | some port => ":" ++ Text.natText port
  | none => ""

/-- The query behind a path. -/
def queryText (url : Url) : String := ((url.query.map ("?" ++ ·)).getD "")

/-- The text of an address. -/
def text (url : Url) : String :=
  url.scheme.name ++ "://" ++ url.credentialsText ++ url.host.text ++ url.portText ++
    Path.text url.path ++ url.queryText ++ ((url.fragment.map ("#" ++ ·)).getD "")

end Url

namespace Address

/-- The form that an address takes behind its scheme. -/
inductive Form where
  /-- A host is required. -/
  | web
  /-- A host may follow two slashes. -/
  | file
  /-- A host follows two slashes, if any. -/
  | other
  deriving DecidableEq

/-- The form of a scheme. -/
def formOf (scheme : String) : Form :=
  if ["http", "https", "ws", "wss", "ftp"].contains scheme then .web
  else if scheme = "file" then .file
  else .other

/-- Whether a character separates parts of an address as a slash does. -/
def isSlash (c : Char) : Bool := c == '/' || c == '\\'

/-- Whether a character ends the host part; a backslash does so on the web. -/
def endsAuthority (web : Bool) (c : Char) : Bool :=
  c == '/' || c == '?' || c == '#' || (web && c == '\\')

/-- Splits off a scheme and its colon. -/
def splitScheme? (chars : List Char) : Option (String × List Char) :=
  let (name, rest) := chars.span fun c => c.isAlphanum || c == '+' || c == '-' || c == '.'
  match name, rest with
  | first :: _, ':' :: rest =>
    if first.isAlpha then some (String.ofList (name.map Char.toLower), rest) else none
  | _, _ => none

/-- The parts before and after the last at sign. -/
def splitLastAt? (chars : List Char) : Option (List Char × List Char) :=
  if chars.contains '@' then
    let (after, before) := chars.reverse.span (· != '@')
    some (before.tail.reverse, after.reverse)
  else none

/-- User name and password, escaped. -/
def readCredentials (chars : List Char) : String × String :=
  let (username, password) := chars.span (· != ':')
  (String.ofList (escape inCredentials username), String.ofList (escape inCredentials password.tail))

/-- Splits off the host: up to a colon outside of brackets. -/
def splitHost (web : Bool) : (inside : Bool) → List Char → List Char × List Char
  | _, [] => ([], [])
  | inside, c :: rest =>
    if (c == ':' && !inside) || endsAuthority web c then ([], c :: rest)
    else
      let inside := c == '[' || (inside && c != ']')
      let (host, rest) := splitHost web inside rest
      (c :: host, rest)

/-- Reads a port behind its colon; no digits are no port. -/
def readPort (chars : List Char) : Except UrlFault (Option Nat × List Char) :=
  let (digits, rest) := chars.span Char.isDigit
  let port := Text.digitsValue digits 0
  if 65535 < port then .error .invalidPort
  else
    match rest with
    | c :: _ =>
      if endsAuthority true c then .ok (if digits.isEmpty then none else some port, rest)
      else .error .invalidPort
    | [] => .ok (if digits.isEmpty then none else some port, rest)

/-- What stands between the slashes in front and the path. -/
structure Authority where
  username : String
  password : String
  host : Host
  port : Option Nat

/-- Splits off the credentials in front of the host. No host may be missing
behind an at sign with nothing in front. -/
def readUser (web : Bool) (chars : List Char) :
    Except UrlFault ((String × String) × List Char) :=
  let (authority, rest) := chars.span fun c => !endsAuthority web c
  match splitLastAt? authority with
  | none => .ok (("", ""), chars)
  | some (credentials, host) =>
    if credentials.isEmpty && host.isEmpty && !rest.isEmpty then .error .emptyHost
    else .ok (readCredentials credentials, host ++ rest)

/-- Reads the authority of an address. -/
def readAuthority (web : Bool) (chars : List Char) : Except UrlFault (Authority × List Char) := do
  let ((username, password), chars) ← readUser web chars
  let (hostChars, chars) := splitHost web false chars
  if web && hostChars.isEmpty then .error .emptyHost
  let host ← if web then Host.read hostChars else Host.readOpaque hostChars
  let (port, rest) ←
    match chars with
    | ':' :: rest => if host.isEmpty then .error .emptyHost else readPort rest
    | rest => .ok (none, rest)
  if host.isEmpty && !(username.isEmpty && password.isEmpty) then .error .emptyHost
  .ok (⟨username, password, host, port⟩, rest)

/-- Reads what follows the authority of an address on the web. -/
def readRest (scheme : Scheme) (authority : Authority) (chars : List Char) : Url :=
  let (path, rest) := chars.span fun c => c != '?' && c != '#'
  let (query, fragment) := rest.span (· != '#')
  { scheme
    username := authority.username
    password := authority.password
    host := authority.host
    port := if authority.port = some scheme.defaultPort then none else authority.port
    path := Path.read (match path with
      | c :: rest => if isSlash c then rest else c :: rest
      | [] => [])
    query :=
      match query with
      | [] => none
      | _ :: query => some (String.ofList (escape inQuery query))
    fragment :=
      match fragment with
      | [] => none
      | _ :: fragment => some (String.ofList (escape inFragment fragment)) }

/-- Checks the host of a file address: what stands behind two slashes, unless it
is a drive letter. -/
def checkFile : List Char → Except UrlFault Unit
  | first :: second :: rest =>
    if isSlash first && isSlash second then
      let host := rest.takeWhile fun c => !endsAuthority true c
      if host.isEmpty || Path.isDriveLetter (String.ofList host) then .ok ()
      else (Host.read host).map fun _ => ()
    else .ok ()
  | _ => .ok ()

/-- Reads an address behind its scheme. -/
def readBehind (scheme : String) (chars : List Char) : Except UrlFault Address := do
  match formOf scheme with
  | .web =>
    let (authority, rest) ← readAuthority true (chars.dropWhile isSlash)
    if scheme = "http" then .ok (.web (readRest .http authority rest))
    else if scheme = "https" then .ok (.web (readRest .https authority rest))
    else .ok (.foreign scheme)
  | .file =>
    checkFile chars
    .ok (.foreign scheme)
  | .other =>
    match chars with
    | '/' :: '/' :: rest =>
      let _ ← readAuthority false rest
      .ok (.foreign scheme)
    | _ => .ok (.foreign scheme)

/-- The characters of an address that count: none at the ends that are blank or
controls, and no tabs and line ends. -/
def significant (text : String) : List Char :=
  let isEdge := fun c : Char => c.toNat ≤ 0x20
  (((text.toList.dropWhile isEdge).reverse.dropWhile isEdge).reverse).filter
    fun c => !Path.isDropped c

/-- Reads an address. -/
def read (text : String) : Except UrlFault Address :=
  match splitScheme? (significant text) with
  | none => .error .relative
  | some (scheme, rest) => readBehind scheme rest

end Address

end DocQuery.Cluster
