import DocQuery.Proofs.Schema.CompletionOrder
import DocQuery.Proofs.Schema.DocumentFields

/-!
# Skipping leaves no trace

A build passes over collections whose metadata lists no fields, and over fields
that the settings leave out, that have no type or whose type has no scalar. `prune`
removes all of them from the metadata beforehand. What collections contribute stays
the same (`contributions_prune`), and with it the schema and the registered names, in
whatever order collections complete and register.
-/

namespace DocQuery

/-- Changes the value of the first binding of a key. -/
def Entries.adjust {κ ν : Type} [DecidableEq κ] (key : κ) (change : ν → ν) :
    List (κ × ν) → List (κ × ν)
  | [] => []
  | (k, value) :: rest =>
    if k = key then (k, change value) :: rest else (k, value) :: adjust key change rest

/-- What is found under a key that was adjusted is what was there, changed. -/
theorem Entries.find?_adjust {κ ν : Type} [DecidableEq κ] (key : κ) (change : ν → ν)
    (entries : List (κ × ν)) :
    find? key (adjust key change entries) = (find? key entries).map change := by
  induction entries with
  | nil => rfl
  | cons head rest ih =>
      obtain ⟨k, value⟩ := head
      by_cases same : k = key
      · simp [adjust, find?, same]
      · simp [adjust, find?, same, ih]

/-- Changes a member of an object; other values have no members to change. -/
def Json.adjust (key : String) (change : Json → Json) : Json → Json
  | .object members => .object (Entries.adjust key change members)
  | other => other

/-- The member that was adjusted is what it was before, changed. -/
theorem Json.get?_adjust (key : String) (change : Json → Json) (value : Json) :
    (value.adjust key change).get? key = (value.get? key).map change := by
  cases value with
  | object members => exact Entries.find?_adjust key change members
  | _ => rfl

/-- Reading descriptions of fields is reading each of them. -/
theorem ofProperties_eq_map (fields : List (String × Json)) :
    ofProperties fields = fields.map fun field => (field.1, FieldMapping.ofJson field.2) := by
  induction fields with
  | nil => rw [ofProperties, List.map_nil]
  | cons head rest ih => rw [ofProperties, ih, List.map_cons]

/-- The store type of a field is the text under `type`. -/
theorem FieldMapping.kind?_ofJson (description : Json) :
    (FieldMapping.ofJson description).kind? = (description.get? "type").bind Json.asString? := by
  cases description with
  | object members =>
      show _ = typeName? members
      rw [FieldMapping.ofJson]
      cases typeName? members with
      | some kind => rfl
      | none => cases nestedFields? members <;> rfl
  | _ => simp [FieldMapping.ofJson, FieldMapping.kind?, Json.get?]

namespace Compile

variable {config : Config} {metadata : Fields}

/-- Whether a field is passed over: because of its name, for want of a type that is a
text, or because its type has no scalar. -/
def skips (config : Config) (name : String) (description : Json) : Bool :=
  config.ignores name ||
    match (description.get? "type").bind Json.asString? with
    | none => true
    | some kind => !(Scalar.ofKind kind).isOk

/-- Removes the descriptions of fields that are passed over. -/
def pruneFields (config : Config) : Json → Json
  | .object fields => .object (fields.filter fun field => !skips config field.1 field.2)
  | other => other

/-- Removes from the metadata of a collection the fields that are passed over. -/
def pruneDescription (config : Config) (description : Json) : Json :=
  description.adjust "mappings" (Json.adjust "properties" (pruneFields config))

/-- Removes all collections whose metadata has no object `mappings.properties`, and
from the others the fields that are passed over. -/
def prune (config : Config) (metadata : Fields) : Fields :=
  (metadata.filter fun _ description =>
    (CollectionMapping.properties? description).isSome).mapValues (pruneDescription config)

-- A name that is left out, a type without a scalar, no type at all, and no fields.
example :
    prune (({} : Config).ignoring ".") (.ofList
      [("logs", .object [("mappings", .object [("properties", .object
        [("at", .object [("type", .string "date")]), (".at", .object [("type", .string "date")]),
          ("place", .object [("type", .string "geo_point")]),
          ("user", .object [("properties", .object [])])])])]),
        ("empty", .object [("mappings", .object [])])]) =
      .ofList [("logs", .object [("mappings", .object [("properties", .object
        [("at", .object [("type", .string "date")])])])])] := by
  decide

/-- A field is retained exactly if it is not passed over. -/
theorem isSome_field?_of (config : Config) (name : String) (description : Json) :
    (Verdict.of config name (.ofJson description)).field?.isSome =
      !skips config name description := by
  rw [Verdict.of, skips, FieldMapping.kind?_ofJson]
  cases config.ignores name with
  | true => rfl
  | false =>
      cases (description.get? "type").bind Json.asString? with
      | none => rfl
      | some kind =>
          cases read : Scalar.ofKind kind with
          | ok scalar => simp [read, Verdict.field?, Except.isOk, Except.toBool]
          | error error => simp [read, Verdict.field?, Except.isOk, Except.toBool]

/-- Fields that are passed over make no difference to what is retained. -/
theorem retainedFields_filter (config : Config) (fields : List (String × Json)) :
    retainedFields config
        (ofProperties (fields.filter fun field => !skips config field.1 field.2)) =
      retainedFields config (ofProperties fields) := by
  simp only [retainedFields, ofProperties_eq_map, List.filterMap_map, List.filterMap_filter]
  apply List.filterMap_congr
  intro field _
  split
  · rfl
  · rename_i skipped
    rw [← isSome_field?_of] at skipped
    exact (Option.not_isSome_iff_eq_none.mp skipped).symm

/-- The store names of retained fields are those of the fields that are not passed over. -/
theorem mem_storeNames_retainedFields_iff {fields : List (String × Json)} {name : String} :
    name ∈ (retainedFields config (ofProperties fields)).map DocumentField.storeName ↔
      ∃ description, (name, description) ∈ fields ∧ skips config name description = false := by
  simp only [retainedFields, ofProperties_eq_map, List.filterMap_map, List.mem_map,
    List.mem_filterMap]
  constructor
  · rintro ⟨field, ⟨⟨other, description⟩, listed, retained⟩, rfl⟩
    obtain rfl := (names_of_verdict retained).1
    refine ⟨description, listed, ?_⟩
    rw [← Bool.not_eq_true', ← isSome_field?_of]
    exact Option.isSome_iff_exists.mpr ⟨field, retained⟩
  · rintro ⟨description, listed, kept⟩
    rw [← Bool.not_eq_true', ← isSome_field?_of] at kept
    obtain ⟨field, retained⟩ := Option.isSome_iff_exists.mp kept
    exact ⟨field, ⟨(name, description), listed, retained⟩,
      (names_of_verdict retained).1⟩

/-- Of the fields that a collection lists, pruning leaves those that are not passed over. -/
theorem properties?_pruneDescription (config : Config) (description : Json) :
    CollectionMapping.properties? (pruneDescription config description) =
      (CollectionMapping.properties? description).map
        (List.filter fun field => !skips config field.1 field.2) := by
  rw [CollectionMapping.properties?, CollectionMapping.properties?, pruneDescription,
    Json.get?_adjust, Option.bind_map]
  have under : ∀ mappings : Json,
      (mappings.adjust "properties" (pruneFields config)).get? "properties" =
        (mappings.get? "properties").map (pruneFields config) :=
    fun mappings => Json.get?_adjust _ _ mappings
  cases description.get? "mappings" with
  | none => rfl
  | some mappings =>
      simp only [Option.bind_some, Function.comp_apply, under]
      cases mappings.get? "properties" with
      | none => rfl
      | some properties => cases properties <;> rfl

/-- A collection contributes what it contributes because of its retained fields alone. -/
theorem contribute_congr {name : String} {mapping other : CollectionMapping}
    (same : retainedFields config mapping = retainedFields config other) :
    contribute config name mapping = contribute config name other := by
  simp only [contribute, same]

/-- What is pruned contributes nothing. -/
theorem contributions_prune (config : Config) (metadata : Fields) :
    contributions config (prune config metadata) = contributions config metadata := by
  rw [contributions_eq_filterMap, contributions_eq_filterMap, prune, OrderedMap.mapValues,
    OrderedMap.filter, List.filterMap_map, List.filterMap_filter]
  apply List.filterMap_congr
  intro entry _
  simp only [Function.comp_apply, properties?_pruneDescription]
  cases CollectionMapping.properties? entry.2 with
  | none => rfl
  | some fields =>
      simp only [Option.isSome_some, if_true, Option.map_some, Option.some.injEq]
      exact contribute_congr (retainedFields_filter config fields)

/-- The name is that of a collection that lists fields, or of a field of one that is not passed
over. -/
def Keeps (config : Config) (metadata : Fields) (name : String) : Prop :=
  ∃ entry ∈ metadata.entries, ∃ fields, CollectionMapping.properties? entry.2 = some fields ∧
    (name = entry.1 ∨
      ∃ description, (name, description) ∈ fields ∧ skips config name description = false)

/-- A build registers the collections that list fields, and those of their fields that
are not passed over. -/
theorem mem_registrations_iff {name : String} :
    name ∈ registrations (contributions config metadata) ↔ Keeps config metadata name := by
  simp only [registrations, contributions_eq_filterMap, List.mem_flatMap, List.mem_filterMap,
    Option.map_eq_some_iff]
  constructor
  · rintro ⟨_, ⟨entry, listed, fields, found, rfl⟩, registered⟩
    refine ⟨entry, listed, fields, found, ?_⟩
    rw [← mem_storeNames_retainedFields_iff]
    exact List.mem_cons.mp registered
  · rintro ⟨entry, listed, fields, found, own⟩
    refine ⟨_, ⟨entry, listed, fields, found, rfl⟩, ?_⟩
    rw [← mem_storeNames_retainedFields_iff] at own
    exact List.mem_cons.mpr own

/-- A build from pruned metadata has the same result as one from all of it, failure or
schema, and leaves the same registry. So it is in the order of the metadata, and so it is
whatever order collections complete in and however their registrations are interleaved: what a
build may come to is the same. The names that are registered are those of the collections that
list fields and of their fields that are not passed over. -/
theorem build_prune_eq (config : Config) (registry : Registry) (metadata : Fields) :
    (build config registry (prune config metadata)).schema =
        (build config registry metadata).schema ∧
      (build config registry (prune config metadata)).registry =
        (build config registry metadata).registry ∧
      (∃ names, (build config registry metadata).registry = registry.registerAll names ∧
        ∀ name, name ∈ names ↔ Keeps config metadata name) ∧
      ∀ history result after,
        (MayBuild config registry (prune config metadata) history result after ↔
          MayBuild config registry metadata history result after) ∧
        (MayBuild config registry metadata history result after →
          after = registry.registerAll history ∧
            ∀ name, name ∈ history ↔ Keeps config metadata name) := by
  refine ⟨?schema, ?registry, ⟨registrations (contributions config metadata), rfl,
    fun name => mem_registrations_iff⟩, fun history result after => ⟨?orders, ?names⟩⟩
  case schema =>
    show assemble (contributions config (prune config metadata)) = _
    rw [contributions_prune]
    rfl
  case registry =>
    show registry.registerAll (registrations (contributions config (prune config metadata))) = _
    rw [contributions_prune]
    rfl
  case orders => exact mayBuild_congr (contributions_prune config metadata)
  case names =>
    intro built
    exact ⟨built.registry_eq, fun name => built.perm.mem_iff.trans mem_registrations_iff⟩

end Compile

end DocQuery
