import DocQuery.Request.Aggregation
import DocQuery.Request.Filter
import DocQuery.Request.Record
import DocQuery.Schema.Basic
import DocQuery.Store.Operation

/-!
# How a root field is answered

A request is either answered at once or asks the store exactly one thing. The
plan says which, and how the answer of the store is read. Whatever fails on the
way, the error names the root field.
-/

namespace DocQuery

/-- A request for the value of a root field. -/
structure Request where
  /-- The name of the root field. -/
  field : String
  arguments : Fields
  selection : SelectionSet
  /-- How many milliseconds the store may take. -/
  timeout : Option Nat

/-- How the answer of the store becomes a value. -/
inductive Reading where
  | documents (includesId : Bool)
  | document (includesId : Bool)
  | aggregations (requested : Requested)

/-- How a request is answered. -/
inductive Plan where
  /-- Without the store. -/
  | answered (value : Json)
  /-- By one operation. -/
  | asks (operation : Operation) (reading : Reading)

namespace Reading

/-- Reads the answer of the store. -/
def read (registry : Registry) (target : Target) (reading : Reading) (response : Response) :
    Except Error (Logged Json) :=
  match reading with
  | .documents includesId => do
    let found ← response.asHits
    .ok ⟨.array (found.hits.map (Record.ofHit registry target includesId)),
      found.hits.flatMap (Record.events registry target)⟩
  | .document includesId => do
    match ← response.asDocument with
    | none => .ok ⟨.null, []⟩
    | some hit =>
      .ok ⟨Record.ofHit registry target includesId hit, Record.events registry target hit⟩
  | .aggregations requested => do
    let found ← response.asHits
    .ok ⟨requested.read found.aggregations, requested.readEvents found.aggregations⟩

end Reading

namespace Resolver

/-- The plan for listing documents. -/
def listPlan (registry : Registry) (target : Target) (arguments : Fields)
    (selection : SelectionSet) : Except Error Plan := do
  let size ← Arguments.size arguments
  let filter ← Arguments.filter arguments
  let projection := Projection.ofSelection registry selection
  .ok (.asks
    (.search
      { collection := target.storeName
        query := Filter.toQuery registry filter
        size
        source := projection.source
        aggregations := [] })
    (.documents projection.includesId))

/-- The plan for fetching a document by its id. -/
def byIdPlan (registry : Registry) (target : Target) (arguments : Fields)
    (selection : SelectionSet) : Except Error Plan := do
  let id ← Arguments.id arguments
  let projection := Projection.ofSelection registry selection
  .ok (.asks (.getById ⟨target.storeName, id, projection.source⟩)
    (.document projection.includesId))

/-- The plan for aggregating. With nothing to compute the store is not asked. -/
def aggregationsPlan (registry : Registry) (target : Target) (arguments : Fields)
    (selection : SelectionSet) : Except Error Plan := do
  let filter ← Arguments.filter arguments
  let requested := Requested.ofSelection target selection
  if requested.entries.isEmpty then
    .ok (.answered (.object (requested.map fun (kind, _) => (kind.name, .object []))))
  else
    .ok (.asks
      (.search
        { collection := target.storeName
          query := Filter.toQuery registry filter
          size := 0
          source := .disabled
          aggregations := requested.entries })
      (.aggregations requested))

/-- The plan for a root field. -/
def plan (registry : Registry) (resolver : Resolver) (arguments : Fields)
    (selection : SelectionSet) : Except Error Plan :=
  match resolver.access with
  | .list => listPlan registry resolver.target arguments selection
  | .byId => byIdPlan registry resolver.target arguments selection
  | .aggregations => aggregationsPlan registry resolver.target arguments selection

/-- An error on the way to the value of a root field. -/
def failure (resolver : Resolver) (error : Error) : Error :=
  error.context ("resolving " ++ backquoted resolver.fieldName)

end Resolver

/-- The resolver of a root field. -/
def Schema.resolver (schema : Schema) (field : String) : Except Error Resolver :=
  match schema.field? field with
  | none => .error (.of (.invalidArgument "field" ("no root field " ++ backquoted field)))
  | some found =>
    match found.resolver with
    | none =>
      .error (.of (.invalidArgument "field"
        ("root field " ++ backquoted field ++ " has no resolver")))
    | some resolver => .ok resolver

end DocQuery
