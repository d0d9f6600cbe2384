import DocQuery.Error
import DocQuery.Json.Basic

/-!
# Collection metadata

The store describes a collection by the object
`mappings.properties` of its metadata, one member to a field. A field is a leaf
with a store type, a nested object with fields of its own, or neither.
-/

namespace DocQuery

/-- How the store describes a field. -/
inductive FieldMapping where
  /-- A leaf with the name of a store type. -/
  | leaf (kind : String)
  /-- A nested object. -/
  | nested (fields : List (String × FieldMapping))
  /-- Neither a type nor fields are given. -/
  | unknown

/-- The fields of a collection, in the order of the metadata. -/
abbrev CollectionMapping := List (String × FieldMapping)

/-- The text of the first member called `type`. -/
def typeName? (members : List (String × Json)) : Option String :=
  (Entries.find? "type" members).bind Json.asString?

mutual

/-- Reads the description of a field. A type decides before nested fields do. -/
def FieldMapping.ofJson : Json → FieldMapping
  | .object members =>
    match typeName? members with
    | some kind => .leaf kind
    | none =>
      match nestedFields? members with
      | some fields => .nested fields
      | none => .unknown
  | _ => .unknown

/-- The fields under the first member called `properties`, if it is an object. -/
def nestedFields? : List (String × Json) → Option CollectionMapping
  | [] => none
  | (key, value) :: rest =>
    if key = "properties" then propertiesOf? value else nestedFields? rest

/-- The fields that an object of descriptions lists. -/
def propertiesOf? : Json → Option CollectionMapping
  | .object members => some (ofProperties members)
  | _ => none

/-- Reads the descriptions of fields one after another. -/
def ofProperties : List (String × Json) → CollectionMapping
  | [] => []
  | (name, description) :: rest => (name, .ofJson description) :: ofProperties rest

end

/-- The name of the store type of a leaf. -/
def FieldMapping.kind? : FieldMapping → Option String
  | .leaf kind => some kind
  | _ => none

/-- Whether the field is a nested object. -/
def FieldMapping.isNested : FieldMapping → Bool
  | .nested _ => true
  | _ => false

namespace CollectionMapping

/-- The object that lists the fields of a collection. -/
def properties? (metadata : Json) : Option (List (String × Json)) :=
  match (metadata.get? "mappings").bind (Json.get? "properties") with
  | some (.object members) => some members
  | _ => none

/-- Reads the metadata of a collection. -/
def ofMetadata (collection : String) (metadata : Json) : Except Error CollectionMapping :=
  match metadata.get? "mappings" with
  | some (.object mappings) =>
    match Entries.find? "properties" mappings with
    | some (.object members) => .ok (ofProperties members)
    | _ => .error (.of (.invalidMapping collection "mapping did not contain properties"))
  | _ => .error (.of (.invalidMapping collection "metadata did not contain mappings"))

/-- Reading succeeds exactly when there is an object that lists fields. -/
theorem ofMetadata_eq_ok_iff (collection : String) (metadata : Json)
    (mapping : CollectionMapping) :
    ofMetadata collection metadata = .ok mapping ↔
      (properties? metadata).map ofProperties = some mapping := by
  unfold ofMetadata properties?
  cases metadata.get? "mappings" with
  | none => simp
  | some mappings =>
    cases mappings with
    | object members =>
      simp only [Option.bind_some, Json.get?]
      cases Entries.find? "properties" members with
      | none => simp
      | some fields => cases fields <;> simp
    | _ => simp [Json.get?]

end CollectionMapping

end DocQuery
