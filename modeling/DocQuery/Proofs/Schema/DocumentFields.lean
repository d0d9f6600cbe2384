import DocQuery.Proofs.Names.History
import DocQuery.Proofs.Schema.Ownership
import DocQuery.Request.Record

/-!
# Looking up the fields of a collection

The fields of a collection are found by their identifiers, in the type of its
documents and in the target of its root fields alike; of fields with one
identifier the last counts. `fieldNamed?` is that look-up without a map.

A build registers the names of all collections and of all their fields. Where no
two of them share an identifier, the identifier of a field leads back to the store
name of this field, and that of a collection to this collection.
-/

namespace DocQuery.Compile

variable {config : Config} {metadata : Fields} {mapping : CollectionMapping}
  {contribution : Contribution} {field : DocumentField}

/-- The field with a given identifier; of several the last counts. -/
def fieldNamed? (fields : List DocumentField) (identifier : String) : Option DocumentField :=
  Entries.findLast? identifier (fields.map fun field => (field.identifier, field))

/-- Root fields find the fields of their collection by identifier. -/
theorem field?_target (contribution : Contribution) (identifier : String) :
    contribution.target.field? identifier = fieldNamed? contribution.fields identifier :=
  OrderedMap.find?_ofList _ _

/-- The field that is found is a field of the collection, with that identifier. -/
theorem mem_of_fieldNamed? {fields : List DocumentField} {identifier : String}
    (found : fieldNamed? fields identifier = some field) :
    field ∈ fields ∧ field.identifier = identifier := by
  obtain ⟨listed, member, same⟩ := List.mem_map.mp (Entries.mem_of_findLast? found)
  simp only [Prod.mk.injEq] at same
  obtain ⟨named, rfl⟩ := same
  exact ⟨member, named⟩

/-- For every field of the collection one with its identifier is found. -/
theorem exists_fieldNamed? {fields : List DocumentField} (member : field ∈ fields) :
    ∃ found, fieldNamed? fields field.identifier = some found :=
  Entries.exists_findLast?_named member

/-- A retained field keeps its store name, and its identifier is made from that. -/
theorem names_of_verdict {name : String} {description : FieldMapping}
    (retained : (Verdict.of config name description).field? = some field) :
    field.storeName = name ∧ field.identifier = Names.normalize name := by
  simp only [Verdict.of] at retained
  split at retained
  · cases retained
  · split at retained
    · cases retained
    · split at retained
      · cases retained
      · obtain rfl := Option.some.inj retained
        exact ⟨rfl, rfl⟩

/-- The identifier of a field is made from its store name. -/
theorem identifier_of_retained (member : field ∈ retainedFields config mapping) :
    field.identifier = Names.normalize field.storeName := by
  obtain ⟨entry, _, decided⟩ := List.mem_filterMap.mp member
  obtain ⟨stored, named⟩ := names_of_verdict decided
  rw [stored, named]

/-- A type with a field for each field of a collection has, under an identifier, the one for
the field that is found. -/
theorem field?_of_fields (name : String) (fields : List DocumentField)
    (type : DocumentField → TypeRef) (identifier : String) :
    ((ObjectType.of name).pushAll
        (fields.map fun field => .of field.identifier (type field))).field? identifier =
      (fieldNamed? fields identifier).map fun field => .of field.identifier (type field) := by
  rw [ObjectType.field?_of_pushAll, fieldNamed?, ← Entries.findLast?_mapValues, List.map_map,
    List.map_map]
  rfl

/-- In the type of the results of a kind, every field has the type of its result. -/
theorem field?_kindType (identifier : String) (fields : List DocumentField)
    (kind : AggregationKind) (name : String) :
    (kindType identifier fields kind).field? name = (fieldNamed? fields name).map fun field =>
      .of field.identifier (resultType kind field.scalar) :=
  field?_of_fields (kindName identifier kind) fields (fun field => resultType kind field.scalar) name

/-- In the type of documents `id` is the id, and any other field is that of the collection. -/
theorem field?_documentType (identifier : String) (fields : List DocumentField) (name : String) :
    (documentType identifier fields).field? name =
      if "id" = name then some (.of "id" Scalar.id)
      else (fieldNamed? fields name).map fun field => .of field.identifier field.scalar := by
  rw [← field?_of_fields (documentName identifier)]
  exact OrderedMap.find?_insert _ _ _ _

/-- The type of documents has the id and the fields of the collection, and nothing else. -/
theorem isSome_field?_documentType_iff {identifier : String} {fields : List DocumentField}
    {name : String} :
    ((documentType identifier fields).field? name).isSome ↔
      name = Projection.idName ∨ ∃ field, fieldNamed? fields name = some field := by
  rw [field?_documentType]
  by_cases same : "id" = name
  · simp [← same, Projection.idName]
  · have differ : name ≠ Projection.idName := fun equal => same equal.symm
    simp [same, differ, Option.isSome_iff_exists]

/-- The identifier of a collection or of a field of one is made from its store name. -/
theorem identifiers_of_contribution
    (contributed : contribution ∈ contributions config metadata) :
    contribution.identifier = Names.normalize contribution.storeName ∧
      ∀ field ∈ contribution.fields, field.identifier = Names.normalize field.storeName := by
  obtain ⟨name, mapping, rfl⟩ := exists_contribute_of_mem contributed
  exact ⟨rfl, fun field member => identifier_of_retained member⟩

/-- A field that root fields find has the identifier under which it is found. -/
theorem identifier_of_field?_target
    (contributed : contribution ∈ contributions config metadata) :
    ∀ name field, contribution.target.field? name = some field →
      field.identifier = name ∧ Names.normalize field.storeName = name := by
  intro name field found
  rw [field?_target] at found
  obtain ⟨retained, named⟩ := mem_of_fieldNamed? found
  exact ⟨named, ((identifiers_of_contribution contributed).2 field retained).symm.trans named⟩

/-- Root fields find a field exactly for the identifiers of the fields of their collection. -/
theorem isSome_field?_target_iff {name : String} :
    (contribution.target.field? name).isSome ↔
      name ∈ contribution.fields.map DocumentField.identifier := by
  rw [field?_target, Option.isSome_iff_exists, List.mem_map]
  constructor
  · rintro ⟨field, found⟩
    obtain ⟨retained, named⟩ := mem_of_fieldNamed? found
    exact ⟨field, retained, named⟩
  · rintro ⟨field, retained, rfl⟩
    exact exists_fieldNamed? retained

/-- Whether a store field holds dates is read off the field that is found. -/
theorem holdsDates_target {identifier : String}
    (contributed : contribution ∈ contributions config metadata)
    (found : fieldNamed? contribution.fields identifier = some field) :
    contribution.target.holdsDates field.storeName = (field.scalar == .dateTime) := by
  have stands : ∀ other, other ∈ contribution.target.fields.values →
      other.storeName = field.storeName → other = field := by
    intro other member same
    obtain ⟨⟨key, _⟩, bound, rfl⟩ := List.mem_map.mp member
    have otherFound : fieldNamed? contribution.fields key = some _ :=
      (field?_target contribution key).symm.trans (OrderedMap.find?_eq_some_iff_mem.mpr bound)
    obtain ⟨retained, named⟩ := mem_of_fieldNamed? found
    obtain ⟨otherRetained, otherNamed⟩ := mem_of_fieldNamed? otherFound
    have normal := (identifiers_of_contribution contributed).2
    have sameKey : key = identifier := by
      rw [← otherNamed, ← named, normal _ otherRetained, normal _ retained, same]
    rw [sameKey, found, Option.some.injEq] at otherFound
    exact otherFound.symm
  have present : field ∈ contribution.target.fields.values := by
    have bound := OrderedMap.find?_eq_some_iff_mem.mp
      ((field?_target contribution identifier).trans found)
    exact List.mem_map.mpr ⟨(identifier, field), bound, rfl⟩
  rw [Target.holdsDates, Bool.eq_iff_iff, List.any_eq_true]
  constructor
  · rintro ⟨other, member, holds⟩
    simp only [Bool.and_eq_true, beq_iff_eq] at holds
    rw [← stands other member holds.1, holds.2]
    rfl
  · intro dates
    exact ⟨field, present, by simp [dates]⟩

/-- A build registers every collection that it uses. -/
theorem storeName_mem_registrations
    (contributed : contribution ∈ contributions config metadata) :
    contribution.storeName ∈ registrations (contributions config metadata) :=
  List.mem_flatMap.mpr ⟨contribution, contributed, List.mem_cons_self⟩

/-- A build registers every field of every collection that it uses. -/
theorem field_mem_registrations (contributed : contribution ∈ contributions config metadata)
    (member : field ∈ contribution.fields) :
    field.storeName ∈ registrations (contributions config metadata) :=
  List.mem_flatMap.mpr
    ⟨contribution, contributed, List.mem_cons_of_mem _ (List.mem_map_of_mem member)⟩

section Registered

variable
  (free :
    (Registry.empty.registerAll (registrations (contributions config metadata))).CollisionFree)
  (contributed : contribution ∈ contributions config metadata)

include free contributed

/-- Without collisions no two collections have one name. -/
theorem storeName_eq_of_identifier_eq :
    ∀ other ∈ contributions config metadata,
      other.identifier = contribution.identifier →
        other.storeName = contribution.storeName := by
  intro other otherContributed same
  refine free _ _ contribution.identifier ?_ ?_
  · rw [Registry.toIdentifier?_registerAll_empty, ← same]
    exact ⟨storeName_mem_registrations otherContributed,
      (identifiers_of_contribution otherContributed).1.symm⟩
  · rw [Registry.toIdentifier?_registerAll_empty]
    exact ⟨storeName_mem_registrations contributed,
      (identifiers_of_contribution contributed).1.symm⟩

/-- Without collisions the store name of a field is the only one with its identifier. -/
theorem toIdentifier?_eq_identifier_iff (member : field ∈ contribution.fields)
    (storeName : String) :
    (Registry.empty.registerAll (registrations (contributions config metadata))).toIdentifier?
      storeName = some field.identifier ↔ storeName = field.storeName := by
  have own : (Registry.empty.registerAll
      (registrations (contributions config metadata))).toIdentifier? field.storeName =
        some field.identifier := by
    rw [Registry.toIdentifier?_registerAll_empty]
    exact ⟨field_mem_registrations contributed member,
      ((identifiers_of_contribution contributed).2 field member).symm⟩
  constructor
  · intro known
    exact free _ _ _ known own
  · rintro rfl
    exact own

/-- Without collisions the fields of a collection are told apart by their identifiers. -/
theorem normalize_eq_identifier_iff (member : field ∈ contribution.fields)
    {other : DocumentField} (otherMember : other ∈ contribution.fields) :
    Names.normalize other.storeName = field.identifier ↔ other.storeName = field.storeName := by
  rw [← toIdentifier?_eq_identifier_iff free contributed member,
    Registry.toIdentifier?_registerAll_empty]
  exact (and_iff_right (field_mem_registrations contributed otherMember)).symm

/-- Without collisions the identifier of a field leads back to its store name. -/
theorem storeName_identifier (member : field ∈ contribution.fields) :
    (Registry.empty.registerAll (registrations (contributions config metadata))).storeName
      field.identifier = field.storeName := by
  have known := (toIdentifier?_eq_identifier_iff free contributed member field.storeName).mpr rfl
  rw [Registry.storeName, (Registry.CollisionFree.toStoreName?_eq_some_iff free).mpr known]
  rfl

end Registered

end DocQuery.Compile
