import DocQuery.Query.Aggregation
import DocQuery.Query.Basic
import DocQuery.Query.SourceFilter

/-!
# Store operations

What the store can be asked: the metadata of collections, one document, or a
search. Each operation is one round trip.
-/

namespace DocQuery

/-- A search over one collection. -/
structure Search where
  collection : String
  /-- Selects the documents. -/
  query : Query
  /-- How many documents are returned at most. -/
  size : Nat
  /-- What is returned of each document. -/
  source : SourceFilter
  /-- Computed over all selected documents. -/
  aggregations : List Aggregation

/-- A request for one document. -/
structure GetById where
  collection : String
  id : String
  source : SourceFilter
  deriving DecidableEq, Repr

/-- A request to the store. -/
inductive Operation where
  /-- The metadata of the collections whose names match a pattern. -/
  | getMappings (pattern : String)
  | getById (request : GetById)
  | search (request : Search)

/-- The body of a search in the query language of the store. -/
def Search.body (search : Search) : Json :=
  let aggregations := OrderedMap.ofList
    (search.aggregations.map fun aggregation => (aggregation.name, aggregation.toJson))
  .object <|
    [("query", search.query.toJson), ("size", .ofNat search.size),
      ("_source", search.source.toJson)] ++
    if search.aggregations.isEmpty then [] else [("aggs", .ofFields aggregations)]

namespace Operation

/-- The name of an operation. -/
def name : Operation → String
  | .getMappings _ => "get_mappings"
  | .getById _ => "get_by_id"
  | .search _ => "search"

/-- The collection, or the pattern, that an operation is about. -/
def target : Operation → String
  | .getMappings pattern => pattern
  | .getById request => request.collection
  | .search request => request.collection

/-- An operation as a JSON value. -/
def toJson : Operation → Json
  | .getMappings pattern => .object [("pattern", .string pattern)]
  | .getById request =>
    .object [("index", .string request.collection), ("id", .string request.id),
      ("_source", request.source.toJson)]
  | .search request => .object [("index", .string request.collection), ("body", request.body)]

/-- The search that an operation is. -/
def search? : Operation → Option Search
  | .search request => some request
  | _ => none

/-- The request for a document that an operation is. -/
def getById? : Operation → Option GetById
  | .getById request => some request
  | _ => none

/-- The operation and its target, as messages name them. -/
def description (operation : Operation) : String :=
  operation.name ++ " on `" ++ operation.target ++ "`"

end Operation

end DocQuery
