import DocQuery.Proofs.Schema.DocumentFields
import DocQuery.Proofs.Schema.GeneratedTypes
import DocQuery.Proofs.Schema.SchemaText

/-!
# Built schemas are well-formed

The types of a collection are well-formed among themselves. Merging may replace a type
by that of another collection, but only by one with the same name, and the name tells
whether a type is for output or for input (`isOutputName_iff`). So what a type refers
to is still there in the merged schema, with the right sort, whatever was replaced.
-/

namespace DocQuery.Compile

variable {config : Config} {storeName : String} {mapping : CollectionMapping} {type : TypeDef}

/-- The types of a collection: that of its documents, those of filters if it has fields,
and those of aggregations if they are wanted as well. -/
theorem mem_types_iff :
    type ∈ (contribute config storeName mapping).types ↔
      type = .object (documentType (Names.normalize storeName) (retainedFields config mapping)) ∨
      (retainedFields config mapping ≠ [] ∧
        ∃ input ∈ (filterTypes (Names.normalize storeName) (retainedFields config mapping)).all,
          type = .input input) ∨
      (retainedFields config mapping ≠ [] ∧ config.aggregations = true ∧
        ((∃ object ∈ (aggregationTypes (Names.normalize storeName)
            (retainedFields config mapping)).all, type = .object object) ∨
          type = .object pairType)) := by
  simp only [contribute, generatedTypes, List.mem_append, List.mem_singleton]
  rw [or_assoc]
  cases retainedFields config mapping with
  | nil => simp
  | cons head rest => cases config.aggregations <;> simp [eq_comm]

/-- The root fields of a collection: two always, and one more for aggregations. -/
theorem mem_rootFields_iff {field : Field} :
    field ∈ (contribute config storeName mapping).rootFields ↔
      field = listField (contribute config storeName mapping).target
        (!(retainedFields config mapping).isEmpty) ∨
      field = byIdField (contribute config storeName mapping).target ∨
      (retainedFields config mapping ≠ [] ∧ config.aggregations = true ∧
        field = aggregationsField (contribute config storeName mapping).target) := by
  simp only [contribute, rootFields, Contribution.target, List.mem_append, List.mem_cons,
    List.not_mem_nil, or_false]
  rw [or_assoc]
  cases retainedFields config mapping with
  | nil => simp
  | cons head rest => cases config.aggregations <;> simp

/-- Retained fields have identifiers for names. -/
theorem isIdentifier_of_retained {field : DocumentField}
    (retained : field ∈ retainedFields config mapping) : Names.IsIdentifier field.identifier :=
  identifier_of_retained retained ▸ Names.isIdentifier_normalize field.storeName

/-- The types of a collection are well-formed among themselves. -/
theorem wellFormed_of_mem_types (member : type ∈ (contribute config storeName mapping).types) :
    type.WellFormed (.of (contribute config storeName mapping).types) := by
  have named := Names.isIdentifier_normalize storeName
  have fieldsNamed : ∀ field ∈ retainedFields config mapping,
      Names.IsIdentifier field.identifier := fun _ => isIdentifier_of_retained
  rcases mem_types_iff.mp member with rfl | ⟨inhabited, input, listed, rfl⟩ |
    ⟨inhabited, wanted, ⟨object, listed, rfl⟩ | rfl⟩
  · exact wellFormed_documentType named fieldsNamed
  · refine wellFormed_filterTypes named fieldsNamed inhabited ?_ input listed
    intro other otherListed
    exact ⟨other, mem_types_iff.mpr (.inr (.inl ⟨inhabited, other, otherListed, rfl⟩)), rfl⟩
  · refine wellFormed_aggregationTypes named fieldsNamed inhabited ?_ ?_ object listed
    · exact ⟨pairType, mem_types_iff.mpr (.inr (.inr ⟨inhabited, wanted, .inr rfl⟩)), rfl⟩
    · intro other otherListed
      exact ⟨other, mem_types_iff.mpr
        (.inr (.inr ⟨inhabited, wanted, .inl ⟨other, otherListed, rfl⟩⟩)), rfl⟩
  · exact wellFormed_pairType

/-- The root fields of a collection are well-formed among its types. -/
theorem wellFormed_of_mem_rootFields {field : Field}
    (member : field ∈ (contribute config storeName mapping).rootFields) :
    field.WellFormed (.of (contribute config storeName mapping).types) ∧
      field.resolver.isSome = true := by
  generalize known : TypeNames.of (contribute config storeName mapping).types = names
  generalize acts : (contribute config storeName mapping).target = target at *
  have identifier : target.identifier = Names.normalize storeName := by
    rw [← acts]
    rfl
  have named : Names.IsIdentifier target.identifier :=
    identifier ▸ Names.isIdentifier_normalize storeName
  have documents : names.object (documentName target.identifier) := by
    rw [← known, identifier]
    exact ⟨_, mem_types_iff.mpr (.inl rfl), documentType_name _ _⟩
  have filters (inhabited : retainedFields config mapping ≠ []) :
      names.input (filterName target.identifier) := by
    rw [← known, identifier]
    exact ⟨_, mem_types_iff.mpr (.inr (.inl ⟨inhabited, _, List.mem_cons_self, rfl⟩)),
      name_pushAll_input _ _⟩
  rcases mem_rootFields_iff.mp member with rfl | rfl | ⟨inhabited, wanted, rfl⟩
  · rw [acts]
    refine ⟨wellFormed_listField named documents fun filtered => filters ?_, rfl⟩
    simpa using filtered
  · rw [acts]
    exact ⟨wellFormed_byIdField named documents, rfl⟩
  · have results : names.object (aggregationName target.identifier) := by
      rw [← known, identifier]
      exact ⟨_, mem_types_iff.mpr (.inr (.inr ⟨inhabited, wanted,
        .inl ⟨_, List.mem_cons_self, rfl⟩⟩)), ObjectType.name_pushAll _ _⟩
    rw [acts]
    exact ⟨wellFormed_aggregationsField named results (filters inhabited), rfl⟩

/-- A name that only types for output have. -/
def IsOutputName (name : String) : Prop := name = pairName ∨ ∃ other, name = documentName other

/-- The name of a generated type tells whether it is for output. -/
theorem isOutputName_iff (member : type ∈ (contribute config storeName mapping).types) :
    IsOutputName type.name ↔ ∃ object, type = .object object := by
  rcases mem_types_iff.mp member with rfl | ⟨inhabited, input, listed, rfl⟩ |
    ⟨inhabited, wanted, ⟨object, listed, rfl⟩ | rfl⟩
  · exact iff_of_true (.inr ⟨_, documentType_name _ _⟩) ⟨_, rfl⟩
  · refine iff_of_false ?_ (by simp)
    rintro (pair | ⟨other, document⟩)
    · exact input_name_ne_pairName listed pair
    · exact input_name_ne_documentName listed other document
  · exact iff_of_true (.inr (exists_documentName_of_mem_aggregationTypes listed)) ⟨_, rfl⟩
  · exact iff_of_true (.inl rfl) ⟨_, rfl⟩

/-- Every type of a collection has a role, except for the shared one. -/
theorem exists_hasRole_of_mem_types
    (member : type ∈ (contribute config storeName mapping).types) :
    type = .object pairType ∨
      ∃ role, HasRole (Names.normalize storeName) (retainedFields config mapping) role type := by
  rcases mem_types_iff.mp member with rfl | ⟨_, input, listed, rfl⟩ |
    ⟨_, _, ⟨object, listed, rfl⟩ | rfl⟩
  · exact .inr ⟨_, .document⟩
  · exact .inr (exists_hasRole_of_mem_filterTypes listed)
  · obtain ⟨role, has, _⟩ := exists_hasRole_of_mem_aggregationTypes listed
    exact .inr ⟨role, has⟩
  · exact .inl rfl

/-- Generated types are named by role, except for the shared one. -/
theorem name_of_mem_types (member : type ∈ (contribute config storeName mapping).types) :
    type.name = pairName ∨
      ∃ role : TypeRole, type.name = Names.normalize storeName ++ role.ending := by
  rcases exists_hasRole_of_mem_types member with rfl | ⟨role, has⟩
  · exact .inl rfl
  · exact .inr ⟨role, has.name_eq⟩

/-- The names of generated types have an underscore, so they are not reserved. -/
theorem name_not_mem_reservedNames (member : type ∈ (contribute config storeName mapping).types) :
    type.name ∉ Schema.reservedNames := by
  have underscored : '_' ∈ type.name.toList := by
    rcases name_of_mem_types member with shared | ⟨role, named⟩
    · rw [shared]
      decide
    · rw [named, String.toList_append]
      exact List.mem_append_right _ role.underscore_mem_ending
  have plain : ∀ name ∈ Schema.reservedNames, '_' ∉ name.toList := by decide
  exact fun reserved => plain _ reserved underscored

section Assembled

variable {compiled : List Contribution} {schema : Schema}
  (generated : ∀ contribution ∈ compiled, ∃ storeName mapping,
    contribution = contribute config storeName mapping)
  (assembled : assemble compiled = .ok schema)

include assembled

/-- The types of a schema are types of collections, each under its name. -/
theorem indexes_types :
    schema.types.Indexes TypeDef.name fun type => ∃ owner ∈ compiled, type ∈ owner.types := by
  rw [(assemble_eq_ok_iff.mp assembled).2.2]
  apply OrderedMap.indexes_ofList
  intro type member
  obtain ⟨owner, sorted, own⟩ := List.mem_flatMap.mp member
  exact ⟨owner, (inOrder_perm _).mem_iff.mp sorted, own⟩

/-- For every type of a collection the schema has one with its name. -/
theorem exists_type? {contribution : Contribution} (contributed : contribution ∈ compiled)
    (member : type ∈ contribution.types) : ∃ found, schema.type? type.name = some found := by
  have listed : type ∈ mergedTypes (inOrder compiled) :=
    List.mem_flatMap.mpr ⟨contribution, (inOrder_perm _).mem_iff.mpr contributed, member⟩
  rw [type?_of_assembled assembled]
  exact Entries.exists_findLast?_named listed

include generated

/-- What a schema has in place of a type of a collection is for output exactly if that is. -/
theorem exists_type?_of_same_sort {contribution : Contribution}
    (contributed : contribution ∈ compiled) (member : type ∈ contribution.types) :
    ∃ found, schema.type? type.name = some found ∧
      ((∃ object, found = .object object) ↔ ∃ object, type = .object object) := by
  obtain ⟨found, present⟩ := exists_type? assembled contributed member
  obtain ⟨named, owner, owning, own⟩ := (indexes_types assembled).of_find? present
  obtain ⟨_, _, rfl⟩ := generated _ contributed
  obtain ⟨_, _, rfl⟩ := generated _ owning
  refine ⟨found, present, ?_⟩
  rw [← isOutputName_iff own, ← isOutputName_iff member, named]

/-- The names of the types of a collection stand for the same in the schema. -/
theorem within_typeNames {contribution : Contribution} (contributed : contribution ∈ compiled) :
    (TypeNames.of contribution.types).Within schema.typeNames where
  object := by
    rintro name ⟨object, member, rfl⟩
    obtain ⟨found, present, sort⟩ :=
      exists_type?_of_same_sort generated assembled contributed member
    obtain ⟨other, rfl⟩ := sort.mpr ⟨object, rfl⟩
    exact ⟨other, Schema.object?_eq_some_iff.mpr present⟩
  input := by
    rintro name ⟨input, member, rfl⟩
    obtain ⟨found, present, sort⟩ :=
      exists_type?_of_same_sort generated assembled contributed member
    cases found with
    | object other =>
        obtain ⟨_, impossible⟩ := sort.mp ⟨other, rfl⟩
        cases impossible
    | input other => exact ⟨other, Schema.input?_eq_some_iff.mpr present⟩

/-- A schema that is merged from generated types is well-formed. -/
theorem wellFormed_of_assembled : schema.WellFormed := by
  obtain ⟨inhabited, query, _⟩ := assemble_eq_ok_iff.mp assembled
  have fields : ∀ field ∈ mergedFields (inOrder compiled),
      field.WellFormed schema.typeNames ∧ field.resolver.isSome = true := by
    intro field member
    obtain ⟨owner, sorted, own⟩ := List.mem_flatMap.mp member
    have contributed := (inOrder_perm _).mem_iff.mp sorted
    have within := within_typeNames generated assembled contributed
    obtain ⟨_, _, rfl⟩ := generated _ contributed
    obtain ⟨formed, resolved⟩ := wellFormed_of_mem_rootFields own
    exact ⟨formed.mono within, resolved⟩
  have types := indexes_types assembled
  refine { root := ?root, query := ?query, resolved := ?resolved, types := ?types
           unreserved := ?unreserved }
  case root =>
    rw [query, ObjectType.name_pushAll]
    rfl
  case query =>
    rw [query]
    exact ObjectType.wellFormed_of_pushAll (by decide) inhabited fun field member =>
      (fields field member).1
  case resolved =>
    have pushed : schema.query.fields.Indexes Field.name
        fun field => field.resolver.isSome = true := by
      rw [query, ObjectType.fields_pushAll]
      exact OrderedMap.indexes_ofList fun field member => (fields field member).2
    exact fun field member => pushed.of_mem_values member
  case types =>
    refine types.imp ?_
    rintro type ⟨owner, contributed, own⟩
    have within := within_typeNames generated assembled contributed
    obtain ⟨_, _, rfl⟩ := generated _ contributed
    exact (wellFormed_of_mem_types own).mono within
  case unreserved =>
    intro type member
    obtain ⟨owner, contributed, own⟩ := types.of_mem_values member
    obtain ⟨_, _, rfl⟩ := generated _ contributed
    exact name_not_mem_reservedNames own

end Assembled

/-- Every schema that is built is well-formed, and its text declares the date scalar
exactly if the schema mentions it. It does not matter which names are registered
before, nor in which order the collections are compiled. -/
theorem built_schema_wellFormed {registry : Registry} {metadata : Fields} {schema : Schema}
    (built : (build config registry metadata).schema = .ok schema ∨
      ∃ compiled, compiled.Perm (contributions config metadata) ∧
        assemble compiled = .ok schema) :
    schema.WellFormed ∧
      ("scalar DateTime" ∈ Text.split '\n' schema.sdl ↔ schema.Mentions .dateTime) := by
  obtain ⟨compiled, order, assembled⟩ : ∃ compiled,
      compiled.Perm (contributions config metadata) ∧ assemble compiled = .ok schema :=
    built.elim (fun now => ⟨_, .refl _, now⟩) id
  have generated : ∀ contribution ∈ compiled, ∃ storeName mapping,
      contribution = contribute config storeName mapping := by
    intro contribution member
    obtain ⟨name, _, mapping, _, _, same⟩ :=
      mem_contributions_iff.mp (order.mem_iff.mp member)
    exact ⟨name, mapping, same⟩
  have formed := wellFormed_of_assembled generated assembled
  exact ⟨formed, formed.declares_iff⟩

/-- Metadata of two collections that both have a type `a_max_aggregation_document`. -/
def overlappingMetadata : Fields :=
  let described := fun kind : String => Json.object [("mappings", .object [("properties",
    .object [("at", .object [("type", .string kind)])])])]
  .ofList [("a", described "date"), ("a_max_aggregation", described "long")]

/-- A schema is built, and well-formed, where collections take types from each other. -/
theorem built_schema_of_overlapping_collections :
    ((mergedTypes (contributions {} overlappingMetadata)).map TypeDef.name).count
        "a_max_aggregation_document" = 2 ∧
      ∃ schema, (build {} .empty overlappingMetadata).schema = .ok schema ∧ schema.WellFormed ∧
        ("scalar DateTime" ∈ Text.split '\n' schema.sdl ↔ schema.Mentions .dateTime) := by
  refine ⟨by decide +kernel, ?_⟩
  cases built : (build {} .empty overlappingMetadata).schema with
  | ok schema => exact ⟨schema, rfl, built_schema_wellFormed (.inl built)⟩
  | error error =>
      have unusable := (build_eq_error_iff.mp built).2 ("a", _) List.mem_cons_self
      cases unusable

end DocQuery.Compile
