import DocQuery.Compile.Collection

/-!
# Building a schema

A schema is built from the metadata of all collections. Collections whose
metadata lists no fields are left out; only if none is left does the build fail.
The contributions are merged in the order of the identifiers of the collections,
and of two definitions of one name the later counts.

A build registers the names of all collections that it could use, with their
fields. `build` does so in the order of the metadata, which is one of the orders in
which collections that are compiled side by side may come to it.
-/

namespace DocQuery.Compile

/-- Collections that could be compiled and such that could not, each in the order
of the metadata. -/
structure Sorted where
  usable : List (String × CollectionMapping)
  ignored : List (String × Error)

/-- Reads the metadata of every collection. -/
def sort (metadata : Fields) : Sorted where
  usable := metadata.entries.filterMap fun entry =>
    match CollectionMapping.ofMetadata entry.1 entry.2 with
    | .ok mapping => some (entry.1, mapping)
    | .error _ => none
  ignored := metadata.entries.filterMap fun entry =>
    match CollectionMapping.ofMetadata entry.1 entry.2 with
    | .ok _ => none
    | .error error => some (entry.1, error)

/-- What the collections contribute, in the order of the metadata. -/
def contributions (config : Config) (metadata : Fields) : List Contribution :=
  (sort metadata).usable.map fun entry => contribute config entry.1 entry.2

/-- Contributions in the order of their identifiers; equal ones stay in place. -/
def inOrder (contributions : List Contribution) : List Contribution :=
  contributions.mergeSort fun left right => decide (left.identifier ≤ right.identifier)

/-- The root fields of all contributions, one after another. -/
def mergedFields (contributions : List Contribution) : List Field :=
  contributions.flatMap Contribution.rootFields

/-- The types of all contributions, one after another. -/
def mergedTypes (contributions : List Contribution) : List TypeDef :=
  contributions.flatMap Contribution.types

/-- Merges contributions into a schema; there is none without root fields. -/
def assemble (contributions : List Contribution) : Except Error Schema :=
  let query := (ObjectType.of Schema.rootName).pushAll (mergedFields (inOrder contributions))
  let types := OrderedMap.ofList
    ((mergedTypes (inOrder contributions)).map fun type => (type.name, type))
  if query.fields.isEmpty then .error (.of .noValidMappings) else .ok ⟨query, types⟩

/-- The names that a build registers, in order. -/
def registrations (contributions : List Contribution) : List String :=
  contributions.flatMap Contribution.registrations

/-- What compiling collections one after another leaves in the log. -/
def compileEvents (config : Config) : Registry → List (String × CollectionMapping) → List Event
  | _, [] => []
  | registry, (storeName, mapping) :: rest =>
    let contribution := contribute config storeName mapping
    contributionEvents config registry storeName mapping ++
      compileEvents config (registry.registerAll contribution.registrations) rest

/-- Warnings about root fields that a later collection takes over. -/
def replacementEvents : ObjectType → List Field → List Event
  | _, [] => []
  | query, field :: rest =>
    (if (query.field? field.name).isSome then [.rootFieldReplaced field.name] else []) ++
      replacementEvents (query.push field) rest

/-- What a build leaves behind. -/
structure Build where
  schema : Except Error Schema
  registry : Registry
  events : List Event

/-- Builds a schema from the metadata of collections. -/
def build (config : Config) (registry : Registry) (metadata : Fields) : Build :=
  let sorted := sort metadata
  let contributions := contributions config metadata
  let schema := assemble contributions
  { schema
    registry := registry.registerAll (registrations contributions)
    events :=
      compileEvents config registry sorted.usable ++
        (sorted.ignored.map fun entry => .collectionIgnored entry.1 entry.2) ++
        replacementEvents (.of Schema.rootName) (mergedFields (inOrder contributions)) ++
        match schema with
        | .ok schema => [.schemaBuilt contributions.length schema.query.fields.size]
        | .error _ => [] }

end DocQuery.Compile
