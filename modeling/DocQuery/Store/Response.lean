import DocQuery.Error
import DocQuery.Json.Basic

/-!
# Store responses

What the store answers: metadata by collection, the result of a search, or a
document, if there is one.
-/

namespace DocQuery

/-- A stored document. -/
structure Hit where
  id : String
  /-- The fields under their store names. -/
  source : Fields
  deriving DecidableEq

/-- A document as a JSON value. -/
def Hit.toJson (hit : Hit) : Json :=
  .object [("_id", .string hit.id), ("_source", .ofFields hit.source)]

/-- The result of a search. -/
structure SearchHits where
  hits : List Hit
  /-- Results of aggregations, by name of the entry. -/
  aggregations : Fields
  deriving DecidableEq

/-- An answer of the store. -/
inductive Response where
  /-- Metadata by collection. -/
  | mappings (metadata : Fields)
  | hits (result : SearchHits)
  | document (hit : Option Hit)
  deriving DecidableEq

namespace Response

/-- The name of the sort of answer. -/
def name : Response → String
  | .mappings _ => "mappings"
  | .hits _ => "hits"
  | .document _ => "document"

/-- The failure to find the expected sort of answer. -/
def unexpected (expected : String) (response : Response) : Error :=
  .of (.invalidResponse ("expected " ++ expected ++ ", got " ++ response.name))

/-- The metadata, if the answer is metadata. -/
def asMappings : Response → Except Error Fields
  | .mappings metadata => .ok metadata
  | other => .error (other.unexpected "mappings")

/-- The result of a search, if the answer is one. -/
def asHits : Response → Except Error SearchHits
  | .hits result => .ok result
  | other => .error (other.unexpected "hits")

/-- The document or its absence, if the answer is about a document. -/
def asDocument : Response → Except Error (Option Hit)
  | .document hit => .ok hit
  | other => .error (other.unexpected "document")

/-- An answer as a JSON value. -/
def toJson : Response → Json
  | .mappings metadata => .ofFields metadata
  | .hits result =>
    .object <| ("hits", .array (result.hits.map Hit.toJson)) ::
      if result.aggregations.isEmpty then []
      else [("aggregations", .ofFields result.aggregations)]
  | .document (some hit) => hit.toJson
  | .document none => .null

end Response

end DocQuery
