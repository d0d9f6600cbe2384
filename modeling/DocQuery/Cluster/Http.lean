import DocQuery.Cluster.Answer
import DocQuery.Cluster.Endpoint
import DocQuery.Json.Printer

/-!
# Requests and replies on the wire

Requests and replies in version 1.1 of the protocol of the web. Every connection
carries one request, so a reply ends where the host closes the connection at the
latest. The body of a reply may come in chunks.
-/

namespace DocQuery.Cluster

/-- The characters that stand for six bits each. -/
def sixBitAlphabet : List Char :=
  "ABCDEFGHIJKLMNOPQRSTUVWXYZabcdefghijklmnopqrstuvwxyz0123456789+/".toList

/-- The character for six bits. -/
def sixBitChar (n : Nat) : Char := sixBitAlphabet.getD (n % 64) '='

/-- Bytes in characters of six bits, filled up to groups of four. -/
def base64 : List UInt8 → List Char
  | [] => []
  | [a] =>
    let bits := a.toNat * 0x1_0000
    [sixBitChar (bits / 0x4_0000), sixBitChar (bits / 0x1000), '=', '=']
  | [a, b] =>
    let bits := a.toNat * 0x1_0000 + b.toNat * 0x100
    [sixBitChar (bits / 0x4_0000), sixBitChar (bits / 0x1000), sixBitChar (bits / 0x40), '=']
  | a :: b :: c :: rest =>
    let bits := a.toNat * 0x1_0000 + b.toNat * 0x100 + c.toNat
    sixBitChar (bits / 0x4_0000) :: sixBitChar (bits / 0x1000) :: sixBitChar (bits / 0x40) ::
      sixBitChar bits :: base64 rest

namespace WebRequest

/-- The credentials of the address, as a header. -/
def credentialHeaders (url : Url) : List (String × String) :=
  if url.username.isEmpty && url.password.isEmpty then []
  else
    let bytes := unescape url.username.toList ++ Text.bytes ":" ++ unescape url.password.toList
    [("authorization", "Basic " ++ String.ofList (base64 bytes))]

/-- The headers of a request. -/
def headers (request : WebRequest) (body : List UInt8) : List (String × String) :=
  [("host", request.url.host.text ++ request.url.portText), ("accept", "*/*"),
      ("connection", "close")] ++ credentialHeaders request.url ++
    if request.body.isSome then
      [("content-type", "application/json"), ("content-length", Text.natText body.length)]
    else []

/-- A request as it is sent. -/
def bytes (request : WebRequest) : List UInt8 :=
  let body := ((request.body.map fun body => Text.bytes body.compact).getD [])
  let start := request.method ++ " " ++ Path.text request.url.path ++ request.url.queryText ++
    " HTTP/1.1\r\n"
  let lines := (request.headers body).map fun (name, value) => name ++ ": " ++ value ++ "\r\n"
  Text.bytes (start ++ String.join lines ++ "\r\n") ++ body

end WebRequest

namespace WebReply

/-- The bytes of a line and those behind its end. -/
def splitLine : List UInt8 → Option (List UInt8 × List UInt8)
  | [] => none
  | 13 :: 10 :: rest => some ([], rest)
  | byte :: rest => (splitLine rest).map fun (line, rest) => (byte :: line, rest)

/-- The text of a line. -/
def lineText (line : List UInt8) : List Char := (Text.decodeLossy line).toList

/-- A header: its name in lower case, and its value. -/
def header? (line : List UInt8) : Option (String × String) :=
  let (name, rest) := (lineText line).span (· != ':')
  if rest.isEmpty then none
  else some (String.ofList (name.map Char.toLower), Text.trim (String.ofList rest.tail))

/-- The headers of a reply and what follows the empty line behind them. -/
def splitHeaders : (fuel : Nat) → List UInt8 → Option (List (String × String) × List UInt8)
  | 0, _ => none
  | fuel + 1, bytes => do
    let (line, rest) ← splitLine bytes
    if line.isEmpty then some ([], rest)
    else
      let (headers, body) ← splitHeaders fuel rest
      some ((header? line).toList ++ headers, body)

/-- The size of a chunk, in hexadecimal digits in front of extensions. -/
def chunkSize? (line : List UInt8) : Option Nat :=
  let digits := (lineText line).takeWhile fun c => (hexValue? c).isSome
  if digits.isEmpty then none else some (Host.hexNumber digits)

/-- The body that comes in chunks; the chunk of size zero is the last one. -/
def joinChunks : (fuel : Nat) → List UInt8 → Option (List UInt8)
  | 0, _ => none
  | fuel + 1, bytes => do
    let (line, rest) ← splitLine bytes
    let size ← chunkSize? line
    if size = 0 then some []
    else if rest.length < size then none
    else
      let (_, rest') ← splitLine (rest.drop size)
      let later ← joinChunks fuel rest'
      some (rest.take size ++ later)

/-- The status in the first line of a reply. -/
def status? (line : List UInt8) : Option Nat :=
  match (lineText line).splitOn ' ' with
  | _ :: status :: _ => Text.readNat? status
  | _ => none

/-- The body of a reply, as its headers say; a body that was cut short is none. -/
def body? (headers : List (String × String)) (bytes : List UInt8) : Option (List UInt8) :=
  if Entries.find? "transfer-encoding" headers = some "chunked" then
    joinChunks (bytes.length + 1) bytes
  else
    match (Entries.find? "content-length" headers).bind fun size => Text.readNat? size.toList with
    | some size => if size ≤ bytes.length then some (bytes.take size) else none
    | none => some bytes

/-- The reply that was received. -/
def ofBytes? (bytes : List UInt8) : Option WebReply := do
  let (line, rest) ← splitLine bytes
  let status ← status? line
  let (headers, rest) ← splitHeaders (rest.length + 1) rest
  let body ← body? headers rest
  some ⟨status, body⟩

end WebReply

end DocQuery.Cluster
