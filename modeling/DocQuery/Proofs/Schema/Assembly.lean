import DocQuery.Compile.Assembly
import DocQuery.Proofs.Maps.Indexed

/-!
# Assembling contributions

A schema has the root fields and the types of all contributions, merged in the
order of their identifiers, so a definition counts unless a later one has its
name. `assemble_eq_ok_iff` and `assemble_eq_error_iff` say when there is a
schema, and `field?_of_assembled` and `type?_of_assembled` what is found in it.

A contribution always has root fields. So a build fails exactly when no
collection is usable, and then it has registered nothing.
-/

namespace DocQuery

namespace ObjectType

/-- Pushing fields binds each to its name. -/
theorem fields_pushAll (object : ObjectType) (fields : List Field) :
    (object.pushAll fields).fields =
      object.fields.insertAll (fields.map fun field => (field.name, field)) := by
  induction fields generalizing object with
  | nil => rfl
  | cons head rest ih =>
      have tail := ih (object.push head)
      simp only [pushAll, List.foldl_cons] at tail ⊢
      rw [tail]
      rfl

/-- Pushing fields keeps the name of the type. -/
@[simp] theorem name_pushAll (object : ObjectType) (fields : List Field) :
    (object.pushAll fields).name = object.name := by
  induction fields generalizing object with
  | nil => rfl
  | cons head rest ih => exact ih (object.push head)

/-- In a type made of pushed fields the last one with a name counts. -/
theorem field?_of_pushAll (name : String) (fields : List Field) (key : String) :
    ((of name).pushAll fields).field? key =
      Entries.findLast? key (fields.map fun field => (field.name, field)) := by
  rw [field?, fields_pushAll, OrderedMap.find?_insertAll]
  exact Option.or_none

/-- A type made of pushed fields is empty only if none is pushed. -/
theorem isEmpty_of_pushAll (name : String) (fields : List Field) :
    ((of name).pushAll fields).fields.isEmpty = fields.isEmpty := by
  rw [fields_pushAll, OrderedMap.isEmpty_insertAll, List.isEmpty_map]
  rfl

end ObjectType

namespace Compile

variable {config : Config} {registry : Registry} {metadata : Fields}

/-- Every collection with a list of fields contributes, in the order of the metadata. -/
theorem contributions_eq_filterMap (config : Config) (metadata : Fields) :
    contributions config metadata = metadata.entries.filterMap fun entry =>
      (CollectionMapping.properties? entry.2).map fun fields =>
        contribute config entry.1 (ofProperties fields) := by
  rw [contributions, sort, List.map_filterMap]
  apply List.filterMap_congr
  intro entry _
  have reads := CollectionMapping.ofMetadata_eq_ok_iff entry.1 entry.2
  cases read : CollectionMapping.ofMetadata entry.1 entry.2 with
  | ok mapping =>
      obtain ⟨fields, listed, rfl⟩ := Option.map_eq_some_iff.mp ((reads mapping).mp read)
      simp [listed]
  | error error =>
      cases listed : CollectionMapping.properties? entry.2 with
      | none => rfl
      | some fields =>
          have usable := (reads (ofProperties fields)).mpr (by rw [listed]; rfl)
          rw [read] at usable
          cases usable

/-- A collection contributes exactly if its metadata lists fields. -/
theorem mem_contributions_iff {contribution : Contribution} :
    contribution ∈ contributions config metadata ↔
      ∃ name description mapping, (name, description) ∈ metadata.entries ∧
        CollectionMapping.ofMetadata name description = .ok mapping ∧
        contribution = contribute config name mapping := by
  simp only [contributions_eq_filterMap, List.mem_filterMap,
    CollectionMapping.ofMetadata_eq_ok_iff, Option.map_eq_some_iff]
  constructor
  · rintro ⟨⟨name, description⟩, member, fields, listed, rfl⟩
    exact ⟨name, description, ofProperties fields, member, ⟨fields, listed, rfl⟩, rfl⟩
  · rintro ⟨name, description, _, member, ⟨fields, listed, rfl⟩, rfl⟩
    exact ⟨(name, description), member, fields, listed, rfl⟩

/-- Only collections contribute, each with its store name and its fields. -/
theorem exists_contribute_of_mem {contribution : Contribution}
    (contributed : contribution ∈ contributions config metadata) :
    ∃ name mapping, contribution = contribute config name mapping := by
  obtain ⟨name, _, mapping, _, _, same⟩ := mem_contributions_iff.mp contributed
  exact ⟨name, mapping, same⟩

/-- Metadata that lists fields is contributed. -/
theorem contribute_mem_contributions (config : Config) {name : String} {description : Json}
    {mapping : CollectionMapping} (described : metadata.find? name = some description)
    (usable : CollectionMapping.ofMetadata name description = .ok mapping) :
    contribute config name mapping ∈ contributions config metadata :=
  mem_contributions_iff.mpr
    ⟨name, description, mapping, OrderedMap.find?_eq_some_iff_mem.mp described, usable, rfl⟩

/-- Nothing is contributed exactly if no metadata has an object that lists fields. -/
theorem contributions_eq_nil_iff :
    contributions config metadata = [] ↔
      ∀ entry ∈ metadata.entries, CollectionMapping.properties? entry.2 = none := by
  rw [contributions_eq_filterMap, List.filterMap_eq_nil_iff]
  simp only [Option.map_eq_none_iff]

/-- Collections contribute under the names that they have in the store, each once. -/
theorem nodup_storeNames :
    ((contributions config metadata).map Contribution.storeName).Nodup := by
  refine List.Nodup.sublist ?_ metadata.distinct
  rw [contributions_eq_filterMap, List.map_filterMap]
  induction metadata.entries with
  | nil => simp
  | cons head rest ih =>
      cases listed : CollectionMapping.properties? head.2 with
      | none => simpa [listed] using ih.cons head.1
      | some fields => simpa [listed, contribute] using ih

/-- Metadata of the same collections in another order makes the same contributions, in
another order. -/
theorem contributions_perm {other : Fields} (permuted : other.entries.Perm metadata.entries) :
    (contributions config other).Perm (contributions config metadata) := by
  rw [contributions_eq_filterMap, contributions_eq_filterMap]
  exact permuted.filterMap _

/-- Sorting neither loses nor adds contributions. -/
theorem inOrder_perm (contributions : List Contribution) :
    (inOrder contributions).Perm contributions :=
  List.mergeSort_perm _ _

/-- Sorting puts contributions in the order of their identifiers. -/
theorem pairwise_inOrder (contributions : List Contribution) :
    (inOrder contributions).Pairwise fun left right => left.identifier ≤ right.identifier := by
  have sorted : (inOrder contributions).Pairwise fun left right =>
      decide (left.identifier ≤ right.identifier) = true := by
    apply List.pairwise_mergeSort
    · intro first second third before after
      simp only [decide_eq_true_eq] at before after ⊢
      exact String.le_trans before after
    · intro first second
      simpa using String.le_total first.identifier second.identifier
  exact sorted.imp fun before => by simpa using before

/-- Every contribution has a root field. -/
theorem rootFields_contribute_ne_nil (storeName : String) (mapping : CollectionMapping) :
    (contribute config storeName mapping).rootFields ≠ [] := by
  simp [contribute, rootFields]

/-- Contributions without root fields are no contributions. -/
theorem mergedFields_eq_nil_iff :
    mergedFields (inOrder (contributions config metadata)) = [] ↔
      contributions config metadata = [] := by
  constructor
  · intro empty
    rw [List.eq_nil_iff_forall_not_mem]
    intro contribution member
    have sorted := (inOrder_perm _).mem_iff.mpr member
    obtain ⟨name, mapping, rfl⟩ := exists_contribute_of_mem member
    exact rootFields_contribute_ne_nil name mapping
      (List.flatMap_eq_nil_iff.mp empty _ sorted)
  · intro empty
    simp [empty, inOrder, mergedFields]

/-- A schema is the root type and the types of all contributions. -/
theorem assemble_eq_ok_iff {schema : Schema} {contributions : List Contribution} :
    assemble contributions = .ok schema ↔
      mergedFields (inOrder contributions) ≠ [] ∧
        schema.query = (ObjectType.of Schema.rootName).pushAll
          (mergedFields (inOrder contributions)) ∧
        schema.types = .ofList
          ((mergedTypes (inOrder contributions)).map fun type => (type.name, type)) := by
  obtain ⟨query, types⟩ := schema
  simp only [assemble, ObjectType.isEmpty_of_pushAll]
  cases fields : mergedFields (inOrder contributions) with
  | nil => simp
  | cons head rest => simp [eq_comm]

/-- There is no schema exactly for want of root fields. -/
theorem assemble_eq_error_iff {error : Error} {contributions : List Contribution} :
    assemble contributions = .error error ↔
      mergedFields (inOrder contributions) = [] ∧ error = .of .noValidMappings := by
  simp only [assemble, ObjectType.isEmpty_of_pushAll]
  cases mergedFields (inOrder contributions) with
  | nil => simp [eq_comm]
  | cons head rest => simp

/-- The root field that is found under a name is the one defined last. -/
theorem field?_of_assembled {schema : Schema} {contributions : List Contribution}
    (assembled : assemble contributions = .ok schema) (name : String) :
    schema.field? name = Entries.findLast? name
      ((mergedFields (inOrder contributions)).map fun field => (field.name, field)) := by
  rw [Schema.field?, (assemble_eq_ok_iff.mp assembled).2.1, ObjectType.field?_of_pushAll]

/-- The names of the root fields stand in the order in which they are first defined. -/
theorem rootFields_of_assembled {schema : Schema} {contributions : List Contribution}
    (assembled : assemble contributions = .ok schema) :
    schema.rootFields = ((mergedFields (inOrder contributions)).map Field.name).eraseDups := by
  rw [Schema.rootFields, (assemble_eq_ok_iff.mp assembled).2.1, ObjectType.fields_pushAll,
    OrderedMap.keys_insertAll, List.map_map]
  rfl

/-- The root field that is found under a name has this name, and a collection generates it. -/
theorem exists_owner_of_field? {schema : Schema} {contributions : List Contribution}
    (assembled : assemble contributions = .ok schema) {name : String} {field : Field}
    (found : schema.field? name = some field) :
    field.name = name ∧ ∃ owner ∈ contributions, field ∈ owner.rootFields := by
  rw [field?_of_assembled assembled] at found
  obtain ⟨listed, defined, same⟩ := List.mem_map.mp (Entries.mem_of_findLast? found)
  simp only [Prod.mk.injEq] at same
  obtain ⟨named, rfl⟩ := same
  obtain ⟨owner, sorted, own⟩ := List.mem_flatMap.mp defined
  exact ⟨named, owner, (inOrder_perm _).mem_iff.mp sorted, own⟩

/-- A root field whose name no other root field has is found under it. -/
theorem field?_of_sole_name {schema : Schema} {contributions : List Contribution}
    (assembled : assemble contributions = .ok schema) {contribution : Contribution}
    (contributed : contribution ∈ contributions) {field : Field}
    (member : field ∈ contribution.rootFields)
    (sole : ∀ other ∈ contributions, ∀ otherField ∈ other.rootFields,
      otherField.name = field.name → otherField = field) :
    schema.field? field.name = some field := by
  have listed : field ∈ mergedFields (inOrder contributions) :=
    List.mem_flatMap.mpr ⟨contribution, (inOrder_perm _).mem_iff.mpr contributed, member⟩
  have only : ∀ other ∈ mergedFields (inOrder contributions),
      other.name = field.name → other = field := by
    intro other otherListed
    obtain ⟨owner, sorted, generated⟩ := List.mem_flatMap.mp otherListed
    exact sole owner ((inOrder_perm _).mem_iff.mp sorted) other generated
  rw [field?_of_assembled assembled]
  exact Entries.findLast?_map listed only

/-- The type that is found under a name is the one defined last. -/
theorem type?_of_assembled {schema : Schema} {contributions : List Contribution}
    (assembled : assemble contributions = .ok schema) (name : String) :
    schema.type? name = Entries.findLast? name
      ((mergedTypes (inOrder contributions)).map fun type => (type.name, type)) := by
  rw [Schema.type?, (assemble_eq_ok_iff.mp assembled).2.2, OrderedMap.find?_ofList]

/-- A build fails exactly if no metadata has an object that lists fields, and
always for that reason. -/
theorem build_eq_error_iff {error : Error} :
    (build config registry metadata).schema = .error error ↔
      error = .of .noValidMappings ∧
        ∀ entry ∈ metadata.entries, CollectionMapping.properties? entry.2 = none := by
  show assemble (contributions config metadata) = .error error ↔ _
  rw [assemble_eq_error_iff, mergedFields_eq_nil_iff, contributions_eq_nil_iff, and_comm]

/-- Names are registered only by collections that have root fields, so a build
that fails has registered none. -/
theorem registry_of_build_error {error : Error}
    (failed : (build config registry metadata).schema = .error error) :
    (build config registry metadata).registry = registry := by
  have nothing : contributions config metadata = [] :=
    contributions_eq_nil_iff.mpr (build_eq_error_iff.mp failed).2
  show registry.registerAll (registrations (contributions config metadata)) = registry
  rw [nothing]
  rfl

end Compile

end DocQuery
