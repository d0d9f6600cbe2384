import DocQuery.Store.Filtering
import DocQuery.Store.Glob
import DocQuery.Store.Metric
import DocQuery.Store.Operation
import DocQuery.Store.Response

/-!
# A store in memory

Collections with metadata and documents, in the order in which they were first
created and inserted, and the answers of such a store to operations.
-/

namespace DocQuery

/-- A collection of documents. -/
structure Collection where
  metadata : Json
  /-- The documents by id. -/
  documents : OrderedMap String Fields
  deriving DecidableEq

/-- Collections by name. -/
structure Memory where
  collections : OrderedMap String Collection
  deriving DecidableEq

namespace Memory

/-- A store without collections. -/
def empty : Memory := ⟨.empty⟩

/-- Creates a collection without documents; one of the same name is replaced. -/
def createCollection (memory : Memory) (name : String) (metadata : Json) : Memory :=
  ⟨memory.collections.insert name ⟨metadata, .empty⟩⟩

/-- Stores a document. There is no place for documents of an unknown collection. -/
def insert (memory : Memory) (collection id : String) (source : Fields) : Memory :=
  match memory.collections.find? collection with
  | none => memory
  | some found =>
    ⟨memory.collections.insert collection
      { found with documents := found.documents.insert id source }⟩

/-- The metadata of the collections whose names a list of patterns describes. -/
def getMappings (memory : Memory) (patterns : String) : Fields :=
  (memory.collections.filter fun name _ => Glob.anyDescribes patterns name).mapValues
    Collection.metadata

/-- The collection of a given name. -/
def collection (memory : Memory) (name : String) : Except Error Collection :=
  match memory.collections.find? name with
  | some found => .ok found
  | none =>
    .error (.of (.queryFailed 404 (some "index_not_found_exception")
      (some ("no such index [" ++ name ++ "]"))))

end Memory

namespace Collection

/-- The document with a given id, reduced to what is asked for. -/
def get? (collection : Collection) (id : String) (source : SourceFilter) : Option Hit :=
  (collection.documents.find? id).map fun fields => ⟨id, source.apply fields⟩

/-- The documents that a query selects. -/
def selected (collection : Collection) (query : Query) : List (String × Fields) :=
  collection.documents.entries.filter fun document => query.holds document.2

/-- The result of a search. -/
def search (collection : Collection) (request : Search) : SearchHits where
  hits := ((collection.selected request.query).take request.size).map fun document =>
    ⟨document.1, request.source.apply document.2⟩
  aggregations := .ofList (request.aggregations.map fun aggregation =>
    (aggregation.name, Metric.compute aggregation.kind
      ((collection.selected request.query).filterMap fun document =>
        document.2.find? aggregation.field)))

end Collection

/-- The answer of the store to an operation. -/
def Memory.answer (memory : Memory) : Operation → Except Error Response
  | .getMappings pattern => .ok (.mappings (memory.getMappings pattern))
  | .getById request =>
    (memory.collection request.collection).map fun collection =>
      .document (collection.get? request.id request.source)
  | .search request =>
    (memory.collection request.collection).map fun collection =>
      .hits (collection.search request)

end DocQuery
