import DocQuery.Proofs.Schema.Separation
import DocQuery.Proofs.Schema.TypeRoles
import Mathlib.Data.Finset.Dedup
import Mathlib.Data.Finset.Insert

/-!
# Fields that share an identifier

Of the fields of a collection that share an identifier the last one counts, wherever the
identifier is looked up: in the types of filters, which are listed and then merged, in those of
aggregations and of documents, which are filled field by field, in the table of the root
fields, and in the registry. `last_field_prevails` says so of a build from the metadata of a
single collection.
-/

namespace DocQuery

/-- The fields of a type that have a given name. -/
def ObjectType.fieldsNamed (type : ObjectType) (name : String) : List Field :=
  type.fields.values.filter fun field => field.name = name

/-- The fields of an input type that have a given name. -/
def InputType.fieldsNamed (type : InputType) (name : String) : List Argument :=
  type.fields.values.filter fun field => field.name = name

/-- In a well-formed schema a field that is found in a type is the only one with its name. -/
theorem Schema.WellFormed.fieldsNamed_object {schema : Schema} (formed : schema.WellFormed)
    {name key : String} {type : ObjectType} {field : Field}
    (found : schema.object? name = some type) (known : type.field? key = some field) :
    type.fieldsNamed key = [field] := by
  have typeFormed : type.WellFormed schema.typeNames :=
    (formed.types.of_find? (Schema.object?_eq_some_iff.mp found)).2
  exact typeFormed.fields.filter_values known

/-- In a well-formed schema a field that is found in an input type is the only one with its name. -/
theorem Schema.WellFormed.fieldsNamed_input {schema : Schema} (formed : schema.WellFormed)
    {name key : String} {type : InputType} {field : Argument}
    (found : schema.input? name = some type) (known : type.field? key = some field) :
    type.fieldsNamed key = [field] := by
  have typeFormed : type.WellFormed schema.typeNames :=
    (formed.types.of_find? (Schema.input?_eq_some_iff.mp found)).2
  exact typeFormed.fields.filter_values known

namespace Compile

variable {config : Config} {registry : Registry} {metadata : Fields} {storeName : String}
  {description : Json} {mapping : CollectionMapping} {fields : List DocumentField}
  {field : DocumentField} {schema : Schema}

/-- Under its identifier, and wherever that is looked up, a field of a collection is found and
no other one. -/
structure Prevails (schema : Schema) (registry : Registry) (collection : String)
    (field : DocumentField) : Prop where
  /-- Bounds on the field have its scalar, with each operator. -/
  bounds : ∃ type, schema.input? (rangeName collection field.identifier) = some type ∧
    type.fields.values = RangeOp.all.map fun op => ⟨op.name, .scalar field.scalar⟩
  /-- Every clause has one field of this name. -/
  clauses : ∀ combining, ∃ type, schema.input? (clauseName collection combining) = some type ∧
    type.fieldsNamed field.identifier =
      [⟨field.identifier, .named (termName collection field.identifier)⟩]
  /-- The results of every kind have one field of this name, with a type after its scalar. -/
  results : ∀ kind, ∃ type, schema.object? (kindName collection kind) = some type ∧
    type.fieldsNamed field.identifier = [.of field.identifier (resultType kind field.scalar)]
  /-- Documents have one field of this name, with its scalar unless it is the id. -/
  documents : ∃ type, schema.object? (documentName collection) = some type ∧
    type.fieldsNamed field.identifier =
      [.of field.identifier (if field.identifier = "id" then Scalar.id else field.scalar)]
  /-- Root fields know the field by this name. -/
  targets : ∀ access, ∃ target, schema.resolver (collection ++ Access.suffix access) =
    .ok ⟨access, target⟩ ∧ target.field? field.identifier = some field
  /-- The identifier leads back to the store name of the field. -/
  registered : registry.toStoreName? field.identifier = some field.storeName

/-- In the type of a clause, every field has the type of its conditions. -/
theorem field?_clauseType (identifier : String) (fields : List DocumentField) (combining : Clause)
    (name : String) :
    (clauseType identifier fields combining).field? name = (fieldNamed? fields name).map fun field =>
      ⟨field.identifier, .named (termName identifier field.identifier)⟩ := by
  rw [InputType.field?, clauseType, InputType.fields_pushAll, OrderedMap.find?_insertAll,
    fieldNamed?, ← Entries.findLast?_mapValues, List.map_map, List.map_map, List.map_map]
  exact Option.or_none

/-- Documents have as many fields as there are identifiers, with the id. -/
theorem size_fields_documentType (identifier : String) (fields : List DocumentField) :
    (documentType identifier fields).fields.size =
      (insert "id" (fields.map DocumentField.identifier).toFinset).card := by
  let names := fields.map DocumentField.identifier ++ ["id"]
  have keys : (documentType identifier fields).fields.keys = names.eraseDups := by
    rw [documentType, ← ObjectType.pushAll_concat, ObjectType.fields_pushAll,
      OrderedMap.keys_insertAll, List.map_map, List.map_append, List.map_map]
    rfl
  have listed : insert "id" (fields.map DocumentField.identifier).toFinset =
      names.eraseDups.toFinset := by
    ext name
    simp [names, List.mem_eraseDups, or_comm]
  rw [listed, List.toFinset_card_of_nodup (FirstOccurrences.nodup_eraseDups names), ← keys,
    OrderedMap.keys, List.length_map]
  rfl

section Types

variable (inhabited : retainedFields config mapping ≠ []) (aggregated : config.aggregations = true)

include inhabited aggregated

/-- A collection with fields has types for all roles, if aggregations are wanted. -/
theorem HasRole.mem_types {role : TypeRole} {type : TypeDef}
    (has : HasRole (Names.normalize storeName) (retainedFields config mapping) role type) :
    type ∈ (contribute config storeName mapping).types := by
  rw [mem_types_iff]
  cases has with
  | document => exact .inl rfl
  | filter => exact .inr (.inl ⟨inhabited, _, List.mem_cons_self, rfl⟩)
  | clause combining =>
      refine .inr (.inl ⟨inhabited, _, List.mem_cons_of_mem _ (List.mem_append_left _ ?_), rfl⟩)
      exact List.mem_map_of_mem (by cases combining <;> decide)
  | term retained =>
      refine .inr (.inl ⟨inhabited, _, List.mem_cons_of_mem _ (List.mem_append_right _ ?_), rfl⟩)
      exact List.mem_flatMap.mpr ⟨_, retained, List.mem_cons_self⟩
  | range retained =>
      refine .inr (.inl ⟨inhabited, _, List.mem_cons_of_mem _ (List.mem_append_right _ ?_), rfl⟩)
      exact List.mem_flatMap.mpr ⟨_, retained, List.mem_cons_of_mem _ List.mem_cons_self⟩
  | aggregations => exact .inr (.inr ⟨inhabited, aggregated, .inl ⟨_, List.mem_cons_self, rfl⟩⟩)
  | kind computing =>
      refine .inr (.inr ⟨inhabited, aggregated, .inl ⟨_, List.mem_cons_of_mem _ ?_, rfl⟩⟩)
      exact List.mem_map_of_mem (by cases computing <;> decide)

/-- A type that has its role alone among the types of a collection is the last of its name. -/
theorem lastNamed_of_sole {role : TypeRole} {type : TypeDef}
    (has : HasRole (Names.normalize storeName) (retainedFields config mapping) role type)
    (sole : ∀ other, HasRole (Names.normalize storeName) (retainedFields config mapping) role other →
      other = type) :
    LastNamed (contribute config storeName mapping).types type.name type := by
  obtain ⟨last, lastNamed⟩ := exists_lastNamed (has.mem_types inhabited aggregated)
  obtain ⟨earlier, later, split, named, _⟩ := id lastNamed
  have own : last ∈ (contribute config storeName mapping).types := by simp [split]
  rwa [sole last (hasRole_of_name own (named.trans has.name_eq))] at lastNamed

end Types

/-- What stands in front does not matter for the last type of a name, and neither do types of
other names behind it. -/
theorem LastNamed.append {types : List TypeDef} {name : String} {type : TypeDef}
    (lastNamed : LastNamed types name type) (before : List TypeDef) {after : List TypeDef}
    (foreign : ∀ other ∈ after, other.name ≠ name) :
    LastNamed (before ++ types ++ after) name type := by
  obtain ⟨earlier, later, rfl, named, last⟩ := lastNamed
  refine ⟨before ++ earlier, later ++ after, by simp, named, ?_⟩
  intro other listed
  rcases List.mem_append.mp listed with behind | further
  · exact last other behind
  · exact foreign other further

theorem rangeType_name (identifier : String) (field : DocumentField) :
    (rangeType identifier field).name =
      identifier ++ (TypeRole.range field.identifier).ending := by
  have has : HasRole identifier [field] (.range field.identifier)
      (.input (rangeType identifier field)) := .range List.mem_cons_self
  exact has.name_eq

/-- Among the types of conditions and bounds, the last one with the name of bounds on a field is
that of the last field with its identifier. -/
theorem lastNamed_rangeType_of_terms {identifier : String} {earlier later : List DocumentField}
    (last : ∀ other ∈ later, other.identifier ≠ field.identifier) :
    LastNamed ((filterTypes identifier (earlier ++ field :: later)).terms.map .input)
      (rangeType identifier field).name (.input (rangeType identifier field)) := by
  let types := fun field => [termType identifier field, rangeType identifier field]
  refine ⟨(earlier.flatMap types).map .input ++ [.input (termType identifier field)],
    (later.flatMap types).map .input, by simp [filterTypes, types], rfl, ?_⟩
  intro other listed same
  obtain ⟨input, generated, rfl⟩ := List.mem_map.mp listed
  obtain ⟨otherField, behind, own⟩ := List.mem_flatMap.mp generated
  have named := same.trans (rangeType_name identifier field)
  rcases List.mem_pair.mp own with rfl | rfl
  · cases (HasRole.term behind).role_eq named
  · have range := (HasRole.range behind).role_eq named
    exact last otherField behind (TypeRole.range.inj range)

/-- The same holds among all types of a collection: behind these there are only types for output. -/
theorem lastNamed_rangeType {earlier later : List DocumentField}
    (retained : retainedFields config mapping = earlier ++ field :: later)
    (last : ∀ other ∈ later, other.identifier ≠ field.identifier) :
    LastNamed (contribute config storeName mapping).types
      (rangeType (Names.normalize storeName) field).name
      (.input (rangeType (Names.normalize storeName) field)) := by
  let filters := filterTypes (Names.normalize storeName) (earlier ++ field :: later)
  let aggregations := aggregationTypes (Names.normalize storeName) (earlier ++ field :: later)
  let before : List TypeDef :=
    .object (documentType (Names.normalize storeName) (earlier ++ field :: later)) ::
      (filters.root :: filters.clauses).map .input
  let behind : List TypeDef :=
    if config.aggregations then aggregations.all.map .object ++ [.object pairType] else []
  have split : (contribute config storeName mapping).types =
      before ++ filters.terms.map .input ++ behind := by
    simp [contribute, generatedTypes, retained, FilterTypes.all, before, behind, filters,
      aggregations]
  have foreign : ∀ other ∈ behind,
      other.name ≠ (rangeType (Names.normalize storeName) field).name := by
    intro other listed same
    have own : other ∈ (contribute config storeName mapping).types := by
      rw [split]
      exact List.mem_append_right _ listed
    obtain ⟨_, _, _, rfl⟩ :=
      (hasRole_of_name own (same.trans (rangeType_name _ field))).exists_rangeType
    simp only [behind] at listed
    split at listed <;> simp at listed
  rw [split]
  exact (lastNamed_rangeType_of_terms last).append before foreign

section Sole

variable (only : metadata.entries = [(storeName, description)])
  (usable : CollectionMapping.ofMetadata storeName description = .ok mapping)

include only usable

/-- A collection that is alone is all that is contributed. -/
theorem contributions_of_sole :
    contributions config metadata = [contribute config storeName mapping] := by
  simp [contributions, sort, only, usable]

theorem contribute_mem_of_sole :
    contribute config storeName mapping ∈ contributions config metadata := by
  rw [contributions_of_sole only usable]
  exact List.mem_singleton_self _

/-- A collection that is alone is separate from the others. -/
theorem separateCollections_of_sole : SeparateCollections metadata := by
  have used : (sort metadata).usable = [(storeName, mapping)] := by simp [sort, only, usable]
  refine ⟨by simp [DistinctCollections, used], ?_⟩
  intro first firstUsed second secondUsed starts
  rw [used, List.mem_singleton] at firstUsed secondUsed
  have longer := starts.length_le
  simp only [firstUsed, secondUsed, String.toList_append, List.length_append] at longer
  exact absurd longer (Nat.not_succ_le_self _)

/-- From the metadata of a collection that lists fields a schema is built. -/
theorem exists_schema_of_sole (config : Config) (registry : Registry) :
    ∃ schema, (build config registry metadata).schema = .ok schema := by
  cases built : (build config registry metadata).schema with
  | ok schema => exact ⟨schema, rfl⟩
  | error error =>
      have nothing : contributions config metadata = [] :=
        contributions_eq_nil_iff.mpr (build_eq_error_iff.mp built).2
      rw [contributions_of_sole only usable] at nothing
      cases nothing

/-- The last type of a name that a collection generates is in the schema, if it is alone. -/
theorem type?_of_sole (built : (build config registry metadata).schema = .ok schema) {name : String}
    {type : TypeDef} (lastNamed : LastNamed (contribute config storeName mapping).types name type) :
    schema.type? name = some type := by
  have separate := separateCollections_of_sole only usable
  exact type?_of_lastNamed separate built (contribute_mem_of_sole only usable) lastNamed

/-- The documents of a collection that is alone are those of its own fields. -/
theorem object?_documentName_of_sole (built : (build config registry metadata).schema = .ok schema) :
    schema.object? (documentName (Names.normalize storeName)) =
      some (documentType (Names.normalize storeName) (retainedFields config mapping)) := by
  have assembled : assemble (contributions config metadata) = .ok schema := built
  have alone : ∀ other ∈ contributions config metadata,
      other.storeName = (contribute config storeName mapping).storeName := by
    intro other member
    rw [contributions_of_sole only usable, List.mem_singleton] at member
    rw [member]
  have found := object?_documentName_of_assembled assembled (contribute_mem_of_sole only usable)
    fun other member _ => alone other member
  simpa only [contribute] using found

/-- A build from the metadata of a single collection registers its name and those of its fields. -/
theorem registry_of_sole (config : Config) (registry : Registry) :
    (build config registry metadata).registry = registry.registerAll
      (storeName :: (retainedFields config mapping).map DocumentField.storeName) := by
  show registry.registerAll (registrations (contributions config metadata)) = _
  rw [contributions_of_sole only usable]
  simp [registrations, Contribution.registrations, contribute]

/-- A collection with fields has all its root fields in the schema, if it is alone and
aggregations are wanted. -/
theorem resolver_of_sole (built : (build config registry metadata).schema = .ok schema)
    (aggregated : config.aggregations = true) (inhabited : retainedFields config mapping ≠ [])
    (access : Access) :
    schema.resolver (Names.normalize storeName ++ access.suffix) =
      .ok ⟨access, (contribute config storeName mapping).target⟩ := by
  have separate := separateCollections_of_sole only usable
  have contributed : contribute config storeName mapping ∈ contributions config metadata :=
    contribute_mem_of_sole only usable
  by_cases documents : access = .aggregations
  · subst documents
    let field := aggregationsField (contribute config storeName mapping).target
    have own : field ∈ (contribute config storeName mapping).rootFields :=
      mem_rootFields_iff.mpr (.inr (.inr ⟨inhabited, aggregated, rfl⟩))
    have named : field.name = Names.normalize storeName ++ Access.aggregations.suffix := rfl
    rw [Schema.resolver, ← named, field?_of_mem_rootFields separate built contributed own]
    rfl
  · exact resolver_of_separate separate built contributed documents

end Sole

/-- Where a field is the last of a collection with its identifier, every view of the collection
shows this field, if the collection is alone and aggregations are wanted. -/
theorem prevails_of_last (only : metadata.entries = [(storeName, description)])
    (usable : CollectionMapping.ofMetadata storeName description = .ok mapping)
    (aggregated : config.aggregations = true)
    (built : (build config registry metadata).schema = .ok schema)
    {earlier later : List DocumentField}
    (retained : retainedFields config mapping = earlier ++ field :: later)
    (last : ∀ other ∈ later, other.identifier ≠ field.identifier) :
    Prevails schema (build config registry metadata).registry (Names.normalize storeName) field := by
  have inhabited : retainedFields config mapping ≠ [] := by simp [retained]
  have found : fieldNamed? (retainedFields config mapping) field.identifier = some field :=
    Entries.findLast?_named_eq_some_iff.mpr ⟨earlier, later, retained, rfl, last⟩
  have formed : schema.WellFormed :=
    wellFormed_of_assembled (fun _ => exists_contribute_of_mem) built
  have typed {role : TypeRole} {type : TypeDef}
      (has : HasRole (Names.normalize storeName) (retainedFields config mapping) role type)
      (sole : ∀ other, HasRole (Names.normalize storeName) (retainedFields config mapping) role
        other → other = type) : schema.type? type.name = some type :=
    type?_of_sole only usable built (lastNamed_of_sole inhabited aggregated has sole)
  refine { bounds := ?bounds, clauses := ?clauses, results := ?results, documents := ?documents
           targets := ?targets, registered := ?registered }
  case bounds =>
    have type := type?_of_sole only usable built (lastNamed_rangeType retained last)
    rw [rangeType, name_pushAll_input] at type
    exact ⟨_, Schema.input?_eq_some_iff.mpr type, rfl⟩
  case clauses =>
    intro combining
    have type := typed (.clause combining) fun _ has => by cases has; rfl
    rw [TypeDef.name, clauseType, name_pushAll_input] at type
    have input := Schema.input?_eq_some_iff.mpr type
    refine ⟨_, input, formed.fieldsNamed_input input ?_⟩
    exact (field?_clauseType _ _ combining _).trans (by rw [found]; rfl)
  case results =>
    intro computing
    have type := typed (.kind computing) fun _ has => by cases has; rfl
    rw [TypeDef.name, kindType, ObjectType.name_pushAll] at type
    have object := Schema.object?_eq_some_iff.mpr type
    refine ⟨_, object, formed.fieldsNamed_object object ?_⟩
    exact (field?_kindType _ _ computing _).trans (by rw [found]; rfl)
  case documents =>
    have object := object?_documentName_of_sole only usable built
    refine ⟨_, object, formed.fieldsNamed_object object ?_⟩
    rw [field?_documentType, found]
    by_cases id : field.identifier = "id"
    · rw [id]
      rfl
    · rw [if_neg (Ne.symm id), if_neg id]
      rfl
  case targets =>
    intro access
    refine ⟨_, resolver_of_sole only usable built aggregated inhabited access, ?_⟩
    rw [field?_target]
    exact found
  case registered =>
    have latest : Names.latest? (storeName :: (retainedFields config mapping).map
        DocumentField.storeName) field.identifier = some field.storeName := by
      have identified : ∀ other ∈ retainedFields config mapping,
          other.identifier = Names.normalize other.storeName := fun _ => identifier_of_retained
      simp only [retained, List.forall_mem_append, List.forall_mem_cons] at identified
      obtain ⟨_, own, behind⟩ := identified
      refine Names.latest?_eq_some_iff.mpr ⟨storeName :: earlier.map DocumentField.storeName,
        later.map DocumentField.storeName, by simp [retained], own.symm, ?_⟩
      intro name listed
      obtain ⟨other, further, rfl⟩ := List.mem_map.mp listed
      rw [← behind other further]
      exact last other further
    rw [registry_of_sole only usable, Registry.toStoreName?_registerAll, latest, Option.some_or]

/-- Of the fields of a collection that share an identifier the last one prevails. From the
metadata of a single collection a schema is built in which everything that is known under the
identifier is that of the last field: bounds, clauses, results of aggregations, documents and
root fields; and the identifier leads back to its store name, whatever was registered before.
Documents have as many fields as there are identifiers, with the id. -/
theorem last_field_prevails (only : metadata.entries = [(storeName, description)])
    (usable : CollectionMapping.ofMetadata storeName description = .ok mapping)
    (aggregated : config.aggregations = true) (registry : Registry) :
    ∃ schema, (build config registry metadata).schema = .ok schema ∧
      (∃ type, schema.object? (documentName (Names.normalize storeName)) = some type ∧
        type.fields.size = (insert "id"
          ((retainedFields config mapping).map DocumentField.identifier).toFinset).card) ∧
      ∀ identifier ∈ (retainedFields config mapping).map DocumentField.identifier,
        ∃ earlier last later, retainedFields config mapping = earlier ++ last :: later ∧
          last.identifier = identifier ∧ (∀ other ∈ later, other.identifier ≠ identifier) ∧
          Prevails schema (build config registry metadata).registry (Names.normalize storeName)
            last := by
  obtain ⟨schema, built⟩ := exists_schema_of_sole only usable config registry
  refine ⟨schema, built, ?size, ?views⟩
  case size =>
    exact ⟨_, object?_documentName_of_sole only usable built, size_fields_documentType _ _⟩
  case views =>
    intro identifier member
    obtain ⟨field, retained, rfl⟩ := List.mem_map.mp member
    obtain ⟨last, found⟩ := exists_fieldNamed? retained
    obtain ⟨earlier, later, split, named, behind⟩ := Entries.findLast?_named_eq_some_iff.mp found
    refine ⟨earlier, last, later, split, named, behind, ?_⟩
    exact prevails_of_last only usable aggregated built split (named ▸ behind)

/-- Two pairs of names that collide, one of them at the id, and a name with the same identifier
from before. The last field of each pair prevails, and documents have two fields. -/
theorem last_of_colliding_fields_prevails :
    let description : Json := .object [("mappings", .object [("properties",
      .object [("unit price", .object [("type", .string "float")]),
        ("id", .object [("type", .string "float")]),
        ("unit/price", .object [("type", .string "date")]),
        ("(id)", .object [("type", .string "date")])])])]
    let metadata : Fields := .ofList [("orders", description)]
    let registry := Registry.empty.register "unit-price"
    let left := (build {} registry metadata).registry
    ∃ schema, (build {} registry metadata).schema = .ok schema ∧
      Prevails schema left "orders" ⟨"unit/price", "unit_price", "date", .dateTime⟩ ∧
      Prevails schema left "orders" ⟨"(id)", "id", "date", .dateTime⟩ ∧
      ∃ type, schema.object? "orders_document" = some type ∧ type.fields.size = 2 := by
  intro description metadata registry left
  let mapping : CollectionMapping := [("unit price", .leaf "float"), ("id", .leaf "float"),
    ("unit/price", .leaf "date"), ("(id)", .leaf "date")]
  let first : DocumentField := ⟨"unit/price", "unit_price", "date", .dateTime⟩
  let second : DocumentField := ⟨"(id)", "id", "date", .dateTime⟩
  have retained : retainedFields {} mapping = [⟨"unit price", "unit_price", "float", .float⟩,
    ⟨"id", "id", "float", .float⟩, first, second] := by decide +kernel
  have collection : Names.normalize "orders" = "orders" := by decide +kernel
  have only : metadata.entries = [("orders", description)] := rfl
  have usable : CollectionMapping.ofMetadata "orders" description = .ok mapping := rfl
  have aggregated : ({} : Config).aggregations = true := rfl
  obtain ⟨schema, built, ⟨type, documents, size⟩, views⟩ :=
    last_field_prevails only usable aggregated registry
  rw [retained] at size views
  rw [collection] at documents views
  have prevails : ∀ field, fieldNamed? [⟨"unit price", "unit_price", "float", .float⟩,
      ⟨"id", "id", "float", .float⟩, first, second] field.identifier = some field →
      Prevails schema left "orders" field := by
    intro field found
    obtain ⟨_, _, listed, _⟩ := Entries.findLast?_named_eq_some_iff.mp found
    obtain ⟨earlier, last, later, split, named, behind, shown⟩ := views field.identifier
      (List.mem_map_of_mem (by rw [listed]; simp))
    have same := Entries.findLast?_named_eq_some_iff.mpr ⟨earlier, later, split, named, behind⟩
    cases Option.some.inj (same.symm.trans found)
    exact shown
  refine ⟨schema, built, prevails first (by decide +kernel), prevails second (by decide +kernel),
    type, documents, ?_⟩
  rw [size]
  decide +kernel

end Compile

end DocQuery
