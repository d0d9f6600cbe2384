import DocQuery.Json.Reader
import DocQuery.Store.Operation
import DocQuery.Store.Response
import DocQuery.Text.Blank

/-!
# Answers of a cluster

An answer has a status and a body. Outside the statuses of success it is a
refusal, except that a missing document is reported with status 404. A refusal
that is not JSON gives its text as the reason; a success that is not JSON, or
not of the expected shape, is an error of its own.
-/

namespace DocQuery.Cluster

/-- An answer of a host. -/
structure WebReply where
  status : Nat
  body : List UInt8

namespace WebReply

/-- Whether the status is one of success. -/
def succeeded (reply : WebReply) : Bool := 200 ≤ reply.status && reply.status ≤ 299

/-- The body as a JSON value; an empty one is `null`. -/
def json (reply : WebReply) : Except Error Json :=
  if reply.body.isEmpty then .ok .null
  else
    match Json.read reply.body with
    | .ok value => .ok value
    | .error error =>
      if reply.succeeded then .error (.of (.invalidResponse error.message))
      else .ok (.object [("error", .string (Text.trim (Text.decodeLossy reply.body)))])

end WebReply

/-- The reason given for an error, or else the one given for its first cause. -/
def reason? (error : Json) : Option String :=
  ((error.get? "reason").bind Json.asString?) <|> do
    let causes ← (← error.get? "root_cause").asArray?
    (← (← causes.head?).get? "reason").asString?

/-- The refusal that a status and a body express. -/
def refusal (status : Nat) (body : Json) : Error :=
  .of <|
    match body.get? "error" with
    | some (.object members) =>
      .queryFailed status (((Json.object members).get? "type").bind Json.asString?)
        (reason? (.object members))
    | some (.string reason) => .queryFailed status none (some reason)
    | _ => .queryFailed status none none

/-- A document with its id; a document without source has no fields. -/
def readHit (raw : Json) : Except Error Hit :=
  match raw.get? "_id" with
  | some (.string id) =>
    match raw.get? "_source" with
    | some (.object members) => .ok ⟨id, .ofList members⟩
    | some .null | none => .ok ⟨id, .empty⟩
    | some _ => .error (.of (.invalidResponse "`_source` is not an object"))
  | _ => .error (.of (.invalidResponse "document has no `_id`"))

/-- Metadata by collection. -/
def readMappings : Json → Except Error Response
  | .object members => .ok (.mappings (.ofList members))
  | _ => .error (.of (.invalidResponse "mapping response is not an object"))

/-- The documents of a search. -/
def readHits (body : Json) : Except Error (List Hit) :=
  match (body.get? "hits").bind (Json.get? "hits") with
  | some (.array items) => items.mapM readHit
  | some _ => .error (.of (.invalidResponse "`hits.hits` is not an array"))
  | none => .error (.of (.invalidResponse "search response has no `hits.hits`"))

/-- The aggregation results of a search. -/
def readAggregations (body : Json) : Except Error Fields :=
  match body.get? "aggregations" with
  | some (.object members) => .ok (.ofList members)
  | some .null | none => .ok .empty
  | some _ => .error (.of (.invalidResponse "`aggregations` is not an object"))

/-- The result of a search. -/
def readSearch (body : Json) : Except Error Response := do
  let hits ← readHits body
  let aggregations ← readAggregations body
  .ok (.hits ⟨hits, aggregations⟩)

/-- Whether the body says that there is no such document. -/
def saysMissing (body : Json) : Bool := body.get? "found" == some (.bool false)

/-- A document, or its absence. -/
def readDocument (body : Json) : Except Error Response :=
  if saysMissing body then .ok (.document none)
  else (readHit body).map fun hit => .document (some hit)

/-- The response that a host gives to an operation. -/
def readReply (operation : Operation) (reply : WebReply) : Except Error Response := do
  let body ← reply.json
  match operation with
  | .getById _ =>
    if reply.status = 404 && saysMissing body then .ok (.document none)
    else if reply.succeeded then readDocument body
    else .error (refusal reply.status body)
  | .getMappings _ =>
    if reply.succeeded then readMappings body else .error (refusal reply.status body)
  | .search _ =>
    if reply.succeeded then readSearch body else .error (refusal reply.status body)

end DocQuery.Cluster
