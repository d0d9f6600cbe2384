import DocQuery.Error

/-!
# Log events

Everything that is worth a line in the log, as data. An event has a level, a
fixed message and named fields; `Logged` is a result together with the events
on the way to it. Events never influence results.
-/

namespace DocQuery

/-- The severity of an event. -/
inductive Level where
  | debug
  | info
  | warn
  deriving DecidableEq, Repr

/-- Something worth a line in the log. -/
inductive Event where
  /-- Two names have the same identifier; the identifier now stands for the later one. -/
  | nameCollision (identifier previous storeName : String)
  /-- A field is an object or has no type. -/
  | fieldWithoutScalar (field : String)
  /-- The type of a field has no scalar counterpart. -/
  | fieldSkipped (field : String) (error : Error)
  | documentTypeBuilt (collection : String)
  | filterTypesBuilt (collection : String)
  | aggregationTypesBuilt (collection : String)
  /-- The metadata of a collection lists no fields. -/
  | collectionIgnored (collection : String) (error : Error)
  /-- A later collection generates a root field that exists already. -/
  | rootFieldReplaced (field : String)
  | schemaBuilt (collections fields : Nat)
  | storeQuery (operation target query : String)
  | storeResult (operation target result : String)
  | storeFailed (operation target : String) (error : Error)
  | aggregationMissing (aggregation : String)
  | aggregationMalformed (aggregation : String)
  | dateDropped (field value : String)
  deriving DecidableEq, Repr

namespace Event

/-- The severity of an event. -/
def level : Event → Level
  | .nameCollision .. | .collectionIgnored .. | .rootFieldReplaced .. => .warn
  | .fieldWithoutScalar .. | .fieldSkipped .. | .aggregationMissing .. |
    .aggregationMalformed .. | .dateDropped .. => .debug
  | _ => .info

/-- The fixed message of an event. -/
def message : Event → String
  | .nameCollision .. =>
    "normalized name collision; reverse lookup now resolves to the latest name"
  | .fieldWithoutScalar .. => "skipping field without a scalar type"
  | .fieldSkipped .. => "skipping field"
  | .documentTypeBuilt .. => "built document type"
  | .filterTypesBuilt .. => "built boolean argument type"
  | .aggregationTypesBuilt .. => "built document aggregation type"
  | .collectionIgnored .. => "ignoring collection"
  | .rootFieldReplaced .. => "root field defined twice; keeping the latest"
  | .schemaBuilt .. => "built schema"
  | .storeQuery .. => "store query"
  | .storeResult .. => "store result"
  | .storeFailed .. => "store query failed"
  | .aggregationMissing .. => "aggregation missing from response"
  | .aggregationMalformed .. => "malformed aggregation result"
  | .dateDropped .. => "dropping undecodable date"

/-- The named fields of an event. -/
def fields : Event → List (String × String)
  | .nameCollision identifier previous storeName =>
    [("normalized", identifier), ("previous", previous), ("original", storeName)]
  | .fieldWithoutScalar field => [("field", field)]
  | .fieldSkipped field error => [("field", field), ("error", error.message)]
  | .documentTypeBuilt collection => [("collection", collection)]
  | .filterTypesBuilt collection => [("collection", collection)]
  | .aggregationTypesBuilt collection => [("collection", collection)]
  | .collectionIgnored collection error =>
    [("collection", collection), ("error", error.message)]
  | .rootFieldReplaced field => [("field", field)]
  | .schemaBuilt collections fields =>
    [("collections", Text.natText collections), ("fields", Text.natText fields)]
  | .storeQuery operation target query =>
    [("operation", operation), ("target", target), ("query", query)]
  | .storeResult operation target result =>
    [("operation", operation), ("target", target), ("result", result)]
  | .storeFailed operation target error =>
    [("operation", operation), ("target", target), ("error", error.message)]
  | .aggregationMissing aggregation => [("aggregation", aggregation)]
  | .aggregationMalformed aggregation => [("aggregation", aggregation)]
  | .dateDropped field value => [("field", field), ("value", value)]

end Event

/-- A value with the events on the way to it. -/
structure Logged (α : Type) where
  value : α
  events : List Event

end DocQuery
