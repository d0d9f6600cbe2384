import DocQuery.OrderedMap
import DocQuery.Schema.Scalar

/-!
# What a root field acts on

A root field of the schema lists the documents of a collection, fetches one of
them, or aggregates over them. It knows the collection under both of its names
and the fields that made it into the schema.
-/

namespace DocQuery

/-- A field of a collection that is part of the schema. -/
structure DocumentField where
  /-- The name in the store. -/
  storeName : String
  /-- The name in typed queries. -/
  identifier : String
  /-- The name of the store type. -/
  kind : String
  scalar : Scalar
  deriving DecidableEq, Repr

/-- A collection as requests see it. -/
structure Target where
  /-- The name in the store; every request goes there. -/
  storeName : String
  /-- The name in typed queries. -/
  identifier : String
  /-- The fields, by identifier. Of fields with one identifier the last counts. -/
  fields : OrderedMap String DocumentField
  deriving DecidableEq

namespace Target

/-- A collection with the fields that its metadata lists. -/
def ofFields (storeName identifier : String) (fields : List DocumentField) : Target where
  storeName := storeName
  identifier := identifier
  fields := .ofList (fields.map fun field => (field.identifier, field))

/-- The field with a given identifier. -/
def field? (target : Target) (identifier : String) : Option DocumentField :=
  target.fields.find? identifier

/-- Whether a store field of this name holds dates. -/
def holdsDates (target : Target) (storeName : String) : Bool :=
  target.fields.values.any fun field => field.storeName == storeName && field.scalar == .dateTime

end Target

/-- What a root field does with its collection. -/
inductive Access where
  | list
  | byId
  | aggregations
  deriving DecidableEq, Repr

/-- What is appended to the identifier of a collection to name the root field. -/
def Access.suffix : Access → String
  | .list => ""
  | .byId => "_by_id"
  | .aggregations => "_aggregations"

/-- How the value of a root field is found. -/
structure Resolver where
  access : Access
  target : Target
  deriving DecidableEq

/-- The name that the collection gives to the root field. -/
def Resolver.fieldName (resolver : Resolver) : String :=
  resolver.target.identifier ++ resolver.access.suffix

end DocQuery
