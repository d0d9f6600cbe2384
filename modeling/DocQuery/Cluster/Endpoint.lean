import DocQuery.Cluster.Url
import DocQuery.Error
import DocQuery.Store.Operation

/-!
# Requests to a cluster

Every operation is one request. Its address is that of the host with segments
appended; a search carries its body, and a request for a document says in the
query of the address which fields it wants.
-/

namespace DocQuery.Cluster

/-- A request to a host. -/
structure WebRequest where
  method : String
  url : Url
  body : Option Json

namespace Url

/-- Adds a parameter to the query, behind those that are there. -/
def withParameter (url : Url) (name value : String) : Url :=
  let given := url.query.getD ""
  let separator := if given.isEmpty then "" else "&"
  { url with query := some (given ++ separator ++ formEncode name ++ "=" ++ formEncode value) }

/-- The address of a part of the store behind the address of a host. A fragment is
not sent. -/
def endpoint (host : Url) (segments : List String) : Url :=
  { host with path := Path.appendAll host.path segments, fragment := none }

end Url

/-- The segments of the address for an operation. -/
def segments : Operation → List String
  | .getMappings pattern => [pattern, "_mapping"]
  | .getById request => [request.collection, "_doc", request.id]
  | .search request => [request.collection, "_search"]

/-- Says which fields of a document are wanted. -/
def withSource (url : Url) : SourceFilter → Url
  | .all => url
  | .disabled => url.withParameter "_source" "false"
  | .includes fields => url.withParameter "_source_includes" (",".intercalate fields)

/-- The request for an operation. -/
def request (host : Url) (operation : Operation) : WebRequest :=
  let url := host.endpoint (segments operation)
  match operation with
  | .getMappings _ => ⟨"GET", url, none⟩
  | .getById get => ⟨"GET", withSource url get.source, none⟩
  | .search search => ⟨"POST", url, some search.body⟩

end DocQuery.Cluster
