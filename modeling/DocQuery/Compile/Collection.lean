import DocQuery.Compile.Aggregation
import DocQuery.Compile.Document
import DocQuery.Compile.Field
import DocQuery.Compile.Filter

/-!
# What a collection contributes to the schema

Two or three root fields: a list of documents, a document by its id, and
aggregations. An input type needs at least one field, so a collection without
any field in the schema cannot be filtered, and is not aggregated over either.

A contribution depends on the settings and the metadata alone. Which names it
registers, and in which order, is part of it.
-/

namespace DocQuery.Compile

/-- What a collection contributes to the schema. -/
structure Contribution where
  /-- The name in the store. -/
  storeName : String
  /-- The name in typed queries. -/
  identifier : String
  /-- The fields that are part of the schema. -/
  fields : List DocumentField
  rootFields : List Field
  types : List TypeDef

namespace Contribution

/-- The store names that the collection registers, in order. -/
def registrations (contribution : Contribution) : List String :=
  contribution.storeName :: contribution.fields.map DocumentField.storeName

end Contribution

/-- The root field that lists documents; it takes a filter if there are fields to filter by. -/
def listField (target : Target) (filtered : Bool) : Field :=
  let sized := (Field.of target.identifier (.list (.named (documentName target.identifier)))).argument
    "size" (.nonNull Scalar.int)
  let field :=
    if filtered then sized.argument "boolean_query" (.named (filterName target.identifier))
    else sized
  field.resolvedBy ⟨.list, target⟩

/-- The root field that fetches a document by its id. -/
def byIdField (target : Target) : Field :=
  ((Field.of (target.identifier ++ Access.byId.suffix)
      (.named (documentName target.identifier))).argument
    "id" (.nonNull Scalar.id)).resolvedBy ⟨.byId, target⟩

/-- The root field that aggregates over documents. -/
def aggregationsField (target : Target) : Field :=
  ((Field.of (target.identifier ++ Access.aggregations.suffix)
      (.named (aggregationName target.identifier))).argument
    "boolean_query" (.named (filterName target.identifier))).resolvedBy ⟨.aggregations, target⟩

/-- The root fields of a collection. -/
def rootFields (target : Target) (filtered aggregated : Bool) : List Field :=
  [listField target filtered, byIdField target] ++
    if aggregated then [aggregationsField target] else []

/-- The types that the root fields of a collection refer to. -/
def generatedTypes (identifier : String) (fields : List DocumentField)
    (filtered aggregated : Bool) : List TypeDef :=
  [.object (documentType identifier fields)] ++
    (if filtered then (filterTypes identifier fields).all.map .input else []) ++
    if aggregated then
      (aggregationTypes identifier fields).all.map .object ++ [.object pairType]
    else []

/-- What a collection with the given fields contributes to the schema. -/
def contribute (config : Config) (storeName : String) (mapping : CollectionMapping) :
    Contribution :=
  let identifier := Names.normalize storeName
  let fields := retainedFields config mapping
  let filtered := !fields.isEmpty
  let aggregated := filtered && config.aggregations
  { storeName, identifier, fields
    rootFields := rootFields (.ofFields storeName identifier fields) filtered aggregated
    types := generatedTypes identifier fields filtered aggregated }

/-- What compiling a collection leaves in the log. -/
def contributionEvents (config : Config) (registry : Registry) (storeName : String)
    (mapping : CollectionMapping) : List Event :=
  let contribution := contribute config storeName mapping
  let filtered := !contribution.fields.isEmpty
  registry.registrationEvents storeName ++
    fieldEvents config (registry.register storeName) mapping ++
    [.documentTypeBuilt contribution.identifier] ++
    (if filtered then [.filterTypesBuilt contribution.identifier] else []) ++
    if filtered && config.aggregations then [.aggregationTypesBuilt contribution.identifier]
    else []

end DocQuery.Compile
