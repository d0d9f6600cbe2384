import DocQuery.Proofs.Schema.BuiltSchemas
import DocQuery.Proofs.Schema.CompletionOrder

/-!
# Collections that keep apart

Everything that a collection generates is named after it, with nothing behind its
identifier or something that starts with an underscore. So where no identifier starts
with another one and an underscore, a name tells the collection
(`contribution_of_name`), and merging replaces no definition of another collection.
Only the type of percentiles is shared, and there is one such type.
-/

namespace DocQuery.Compile

variable {config : Config} {registry : Registry} {metadata : Fields} {schema : Schema}

/-- The collections that a build uses have identifiers of their own, and none of these
starts with another one and an underscore. -/
structure SeparateCollections (metadata : Fields) : Prop where
  distinct : DistinctCollections metadata
  apart : ∀ first ∈ (sort metadata).usable, ∀ second ∈ (sort metadata).usable,
    ¬ (Names.normalize first.1 ++ "_").toList <+: (Names.normalize second.1).toList

/-- What stands behind the identifier of a collection in the name of a definition. -/
def IsEnding (ending : String) : Prop := ending = "" ∨ ∃ rest, ending = "_" ++ rest

theorem isEnding_suffix (access : Access) : IsEnding access.suffix := by
  cases access with
  | list => exact .inl rfl
  | byId => exact .inr ⟨"by_id", rfl⟩
  | aggregations => exact .inr ⟨"aggregations", rfl⟩

theorem isEnding_ending (role : TypeRole) : IsEnding role.ending := by
  cases role with
  | document => exact .inr ⟨"document", rfl⟩
  | filter => exact .inr ⟨"boolean_args", rfl⟩
  | clause combining => exact .inr ⟨"boolean_args_" ++ combining.name, by cases combining <;> rfl⟩
  | term field => exact .inr ⟨field ++ "_term_level_args", String.append_assoc⟩
  | range field => exact .inr ⟨field ++ "_range_args", String.append_assoc⟩
  | aggregations => exact .inr ⟨"aggregation_document", rfl⟩
  | kind computing =>
      exact .inr ⟨computing.name ++ "_aggregation_document", String.append_assoc⟩

/-- An ending starts with an underscore if with anything. -/
theorem IsEnding.underscore {ending : String} (isEnding : IsEnding ending) {first : Char}
    {rest : List Char} (chars : ending.toList = first :: rest) : first = '_' := by
  rcases isEnding with rfl | ⟨more, rfl⟩
  · cases chars
  · rw [String.toList_append] at chars
    exact (List.cons.inj chars).1.symm

/-- Two names can only be the same if what is in front of their endings is, or if one
of these starts with the other one and an underscore. -/
theorem front_of_append_eq {front other ending otherEnding : String}
    (isEnding : IsEnding ending) (otherIsEnding : IsEnding otherEnding)
    (same : front ++ ending = other ++ otherEnding) :
    front = other ∨ (front ++ "_").toList <+: other.toList ∨
      (other ++ "_").toList <+: front.toList := by
  have chars := congrArg String.toList same
  rw [String.toList_append, String.toList_append, List.append_eq_append_iff] at chars
  rcases chars with ⟨more, longer, behind⟩ | ⟨more, longer, behind⟩
  · cases more with
    | nil => exact .inl (String.toList_inj.mp (by simpa using longer.symm))
    | cons first rest =>
        obtain rfl := isEnding.underscore behind
        exact .inr (.inl ⟨rest, by simp [longer, String.toList_append]⟩)
  · cases more with
    | nil => exact .inl (String.toList_inj.mp (by simpa using longer))
    | cons first rest =>
        obtain rfl := otherIsEnding.underscore behind
        exact .inr (.inr ⟨rest, by simp [longer, String.toList_append]⟩)

/-- Where collections are separate, a generated name tells the collection. -/
theorem contribution_of_name (separate : SeparateCollections metadata)
    {first second : Contribution} (firstContributed : first ∈ contributions config metadata)
    (secondContributed : second ∈ contributions config metadata) {ending otherEnding : String}
    (isEnding : IsEnding ending) (otherIsEnding : IsEnding otherEnding)
    (same : first.identifier ++ ending = second.identifier ++ otherEnding) : first = second := by
  have apart : ∀ left ∈ contributions config metadata, ∀ right ∈ contributions config metadata,
      ¬ (left.identifier ++ "_").toList <+: right.identifier.toList := by
    intro left leftContributed right rightContributed
    obtain ⟨leftEntry, leftUsed, rfl⟩ := List.mem_map.mp leftContributed
    obtain ⟨rightEntry, rightUsed, rfl⟩ := List.mem_map.mp rightContributed
    exact separate.apart leftEntry leftUsed rightEntry rightUsed
  rcases front_of_append_eq isEnding otherIsEnding same with equal | starts | starts
  · exact List.inj_on_of_nodup_map separate.distinct.nodup_identifiers firstContributed
      secondContributed equal
  · exact absurd starts (apart _ firstContributed _ secondContributed)
  · exact absurd starts (apart _ secondContributed _ firstContributed)

/-- The names of the root fields of a collection. -/
theorem names_rootFields (target : Target) (filtered aggregated : Bool) :
    (rootFields target filtered aggregated).map Field.name =
      target.identifier :: (target.identifier ++ "_by_id") ::
        if aggregated then [target.identifier ++ "_aggregations"] else [] := by
  cases filtered <;> cases aggregated <;> rfl

/-- The root fields of a collection have distinct names. -/
theorem nodup_names_rootFields (target : Target) (filtered aggregated : Bool) :
    ((rootFields target filtered aggregated).map Field.name).Nodup := by
  have byId : target.identifier ≠ target.identifier ++ "_by_id" :=
    (append_ne_self (by decide)).symm
  have aggregations : target.identifier ≠ target.identifier ++ "_aggregations" :=
    (append_ne_self (by decide)).symm
  rw [names_rootFields]
  cases aggregated <;> simp [byId, aggregations]

section Separate

variable (separate : SeparateCollections metadata)

include separate

/-- Where collections are separate, only one of them has a root field with a given name. -/
theorem contribution_of_rootField {first second : Contribution}
    (firstContributed : first ∈ contributions config metadata)
    (secondContributed : second ∈ contributions config metadata) {field other : Field}
    (own : field ∈ first.rootFields) (otherOwn : other ∈ second.rootFields)
    (same : field.name = other.name) : first = second := by
  obtain ⟨access, named, _⟩ := name_of_mem_rootFields firstContributed own
  obtain ⟨otherAccess, otherNamed, _⟩ := name_of_mem_rootFields secondContributed otherOwn
  rw [named, otherNamed] at same
  exact contribution_of_name separate firstContributed secondContributed
    (isEnding_suffix access) (isEnding_suffix otherAccess) same

/-- Where collections are separate, no two root fields have one name. -/
theorem nodup_names_mergedFields :
    ((mergedFields (inOrder (contributions config metadata))).map Field.name).Nodup := by
  rw [mergedFields, List.map_flatMap, List.nodup_flatMap]
  constructor
  · intro contribution member
    obtain ⟨name, mapping, rfl⟩ := exists_contribute_of_mem ((inOrder_perm _).mem_iff.mp member)
    exact nodup_names_rootFields _ _ _
  · have distinct : (inOrder (contributions config metadata)).Pairwise (· ≠ ·) :=
      (inOrder_perm _).nodup_iff.mpr separate.distinct.nodup_identifiers.of_map
    refine distinct.imp_of_mem ?_
    intro first second firstMember secondMember differ name firstNamed secondNamed
    obtain ⟨field, own, rfl⟩ := List.mem_map.mp firstNamed
    obtain ⟨other, otherOwn, same⟩ := List.mem_map.mp secondNamed
    exact differ (contribution_of_rootField separate
      ((inOrder_perm _).mem_iff.mp firstMember) ((inOrder_perm _).mem_iff.mp secondMember)
      own otherOwn same.symm)

/-- Where collections are separate, only one of them has a type with a given name, the
shared one apart. -/
theorem contribution_of_type {first second : Contribution}
    (firstContributed : first ∈ contributions config metadata)
    (secondContributed : second ∈ contributions config metadata) {type other : TypeDef}
    (own : type ∈ first.types) (otherOwn : other ∈ second.types)
    (same : type.name = other.name) (unshared : type.name ≠ pairName) : first = second := by
  obtain ⟨name, mapping, rfl⟩ := exists_contribute_of_mem firstContributed
  obtain ⟨otherName, otherMapping, rfl⟩ := exists_contribute_of_mem secondContributed
  rcases name_of_mem_types own with shared | ⟨role, named⟩
  · exact absurd shared unshared
  rcases name_of_mem_types otherOwn with shared | ⟨otherRole, otherNamed⟩
  · exact absurd (same.trans shared) unshared
  rw [named, otherNamed] at same
  exact contribution_of_name separate firstContributed secondContributed
    (isEnding_ending role) (isEnding_ending otherRole) same

end Separate

/-- Types with the name of the shared type are the shared type. -/
theorem eq_pairType_of_name {contribution : Contribution}
    (contributed : contribution ∈ contributions config metadata) {type : TypeDef}
    (own : type ∈ contribution.types) (named : type.name = pairName) :
    type = .object pairType := by
  obtain ⟨name, mapping, rfl⟩ := exists_contribute_of_mem contributed
  rcases mem_types_iff.mp own with rfl | ⟨_, input, listed, rfl⟩ |
    ⟨_, _, ⟨object, listed, rfl⟩ | rfl⟩
  · exact absurd (named.symm.trans (documentType_name _ _)) (pairName_ne_documentName _)
  · exact absurd named (input_name_ne_pairName listed)
  · obtain ⟨other, document⟩ := exists_documentName_of_mem_aggregationTypes listed
    exact absurd (named.symm.trans document) (pairName_ne_documentName other)
  · rfl

/-- The type is listed under the name, and none behind it is. -/
def LastNamed (types : List TypeDef) (name : String) (type : TypeDef) : Prop :=
  ∃ earlier later, types = earlier ++ type :: later ∧ type.name = name ∧
    ∀ other ∈ later, other.name ≠ name

/-- Every name of a list of types has a last type. -/
theorem exists_lastNamed {types : List TypeDef} {type : TypeDef} (listed : type ∈ types) :
    ∃ last, LastNamed types type.name last := by
  obtain ⟨last, found⟩ : ∃ last, Entries.findLast? type.name
      (types.map fun type => (type.name, type)) = some last :=
    Entries.exists_findLast?_named listed
  exact ⟨last, Entries.findLast?_named_eq_some_iff.mp found⟩

/-- Whatever a schema defines, one collection has generated, and whatever collections
generate is there. Only the shared type may come from several of them. -/
structure KeepsDefinitions (config : Config) (metadata : Fields) (schema : Schema) : Prop where
  /-- A root field is that of the only collection that generates one of its name. -/
  fieldOwned : ∀ name field, schema.field? name = some field →
    ∃ owner ∈ contributions config metadata, field ∈ owner.rootFields ∧ field.name = name ∧
      ∀ other ∈ contributions config metadata, ∀ otherField ∈ other.rootFields,
        otherField.name = name → other = owner
  /-- A type is the last of its name that the only collection with such a type generates. -/
  typeOwned : ∀ name type, schema.type? name = some type →
    ∃ owner ∈ contributions config metadata, LastNamed owner.types name type ∧
      (name ≠ pairName → ∀ other ∈ contributions config metadata,
        ∀ otherType ∈ other.types, otherType.name = name → other = owner)
  fieldKept : ∀ owner ∈ contributions config metadata, ∀ field ∈ owner.rootFields,
    schema.field? field.name = some field
  typeKept : ∀ owner ∈ contributions config metadata, ∀ type ∈ owner.types,
    ∃ last, LastNamed owner.types type.name last ∧ schema.type? type.name = some last
  /-- Root fields stand in the order of the identifiers, two or three for each collection. -/
  order : ∃ sorted : List Contribution, sorted.Perm (contributions config metadata) ∧
    (sorted.Pairwise fun left right => left.identifier < right.identifier) ∧
    schema.rootFields = sorted.flatMap fun owner =>
      owner.identifier :: (owner.identifier ++ "_by_id") ::
        if !owner.fields.isEmpty && config.aggregations then
          [owner.identifier ++ "_aggregations"]
        else []

section Separate

variable (separate : SeparateCollections metadata)
  (assembled : assemble (contributions config metadata) = .ok schema)

include separate assembled

/-- Where collections are separate, the schema has every root field that they generate. -/
theorem field?_of_mem_rootFields {owner : Contribution}
    (contributed : owner ∈ contributions config metadata) {field : Field}
    (own : field ∈ owner.rootFields) : schema.field? field.name = some field := by
  apply field?_of_sole_name assembled contributed own
  intro other otherContributed otherField otherOwn same
  obtain rfl := contribution_of_rootField separate otherContributed contributed otherOwn own same
  obtain ⟨name, mapping, rfl⟩ := exists_contribute_of_mem contributed
  exact List.inj_on_of_nodup_map (nodup_names_rootFields _ _ _) otherOwn own same

/-- Where collections are separate, each has its root fields for documents in the schema. -/
theorem resolver_of_separate {owner : Contribution}
    (contributed : owner ∈ contributions config metadata) {access : Access}
    (documents : access ≠ .aggregations) :
    schema.resolver (owner.identifier ++ access.suffix) = .ok ⟨access, owner.target⟩ := by
  obtain ⟨field, own, named, resolved⟩ := exists_rootField_of_documents contributed documents
  have found := field?_of_mem_rootFields separate assembled contributed own
  rw [Schema.resolver, ← named, found]
  simp only [resolved]

/-- Where collections are separate, the schema has the last type of every name that they
generate. -/
theorem type?_of_lastNamed {owner : Contribution}
    (contributed : owner ∈ contributions config metadata) {name : String} {last : TypeDef}
    (lastNamed : LastNamed owner.types name last) : schema.type? name = some last := by
  have lastFound := Entries.findLast?_named_eq_some_iff.mpr lastNamed
  obtain ⟨before, behind, listed, rfl, _⟩ := lastNamed
  have own : last ∈ owner.types := by simp [listed]
  rw [type?_of_assembled assembled, mergedTypes, List.map_flatMap, ← lastFound]
  refine Entries.findLast?_flatMap ((inOrder_perm _).mem_iff.mpr contributed) ?_
  intro other sorted
  have otherContributed := (inOrder_perm _).mem_iff.mp sorted
  cases found : Entries.findLast? last.name
      (other.types.map fun type => (type.name, type)) with
  | none => exact .inl rfl
  | some type =>
      right
      obtain ⟨earlier, later, split, named, _⟩ := Entries.findLast?_named_eq_some_iff.mp found
      have otherOwn : type ∈ other.types := by simp [split]
      by_cases shared : last.name = pairName
      · -- Several collections may have the shared type, but all have the same.
        rw [lastFound, eq_pairType_of_name contributed own shared,
          eq_pairType_of_name otherContributed otherOwn (named.trans shared)]
      · rw [← found, contribution_of_type separate otherContributed contributed otherOwn own
          named (named.trans_ne shared)]

end Separate

/-- Where collections are separate, no definition of one is lost to another: a schema is
made of the definitions of all of them, in the order of their identifiers. -/
theorem separate_collections_keep_definitions (separate : SeparateCollections metadata)
    (built : (build config registry metadata).schema = .ok schema) :
    KeepsDefinitions config metadata schema := by
  have assembled : assemble (contributions config metadata) = .ok schema := built
  refine { fieldOwned := ?fieldOwned, typeOwned := ?typeOwned, fieldKept := ?fieldKept
           typeKept := ?typeKept, order := ?order }
  case fieldKept =>
    exact fun owner contributed field own =>
      field?_of_mem_rootFields separate assembled contributed own
  case typeKept =>
    intro owner contributed type own
    obtain ⟨last, lastNamed⟩ := exists_lastNamed own
    exact ⟨last, lastNamed, type?_of_lastNamed separate assembled contributed lastNamed⟩
  case fieldOwned =>
    intro name field found
    obtain ⟨rfl, owner, contributed, own⟩ := exists_owner_of_field? assembled found
    refine ⟨owner, contributed, own, rfl, ?_⟩
    intro other otherContributed otherField otherOwn same
    exact contribution_of_rootField separate otherContributed contributed otherOwn own same
  case typeOwned =>
    intro name type found
    obtain ⟨rfl, owner, contributed, own⟩ := (indexes_types assembled).of_find? found
    obtain ⟨last, lastNamed⟩ := exists_lastNamed own
    have lastFound := type?_of_lastNamed separate assembled contributed lastNamed
    obtain rfl := Option.some.inj (found.symm.trans lastFound)
    refine ⟨owner, contributed, lastNamed, ?_⟩
    intro unshared other otherContributed otherType otherOwn same
    exact contribution_of_type separate otherContributed contributed otherOwn own same
      (same.trans_ne unshared)
  case order =>
    refine ⟨inOrder (contributions config metadata), inOrder_perm _, ?ordered, ?names⟩
    case ordered =>
      have distinct : (inOrder (contributions config metadata)).Pairwise
          fun left right => left.identifier ≠ right.identifier :=
        List.pairwise_map.mp (((inOrder_perm _).map _).nodup_iff.mpr
          separate.distinct.nodup_identifiers)
      refine (pairwise_inOrder _).imp₂ ?_ distinct
      intro left right before differ
      exact String.not_le.mp fun after => differ (String.le_antisymm before after)
    case names =>
      rw [rootFields_of_assembled assembled,
        FirstOccurrences.eraseDups_of_nodup (nodup_names_mergedFields separate), mergedFields,
        List.map_flatMap]
      apply List.flatMap_congr
      intro owner sorted
      obtain ⟨name, _, mapping, _, _, rfl⟩ :=
        mem_contributions_iff.mp ((inOrder_perm _).mem_iff.mp sorted)
      exact names_rootFields _ _ _

/-- Metadata of two collections with names that start alike. Two fields of the first have
one identifier. -/
def separateMetadata : Fields :=
  let described := fun fields : List (String × String) => Json.object [("mappings",
    .object [("properties", .object (fields.map fun field =>
      (field.1, .object [("type", .string field.2)])))])]
  .ofList [("logs", described [("unit price", "float"), ("unit_price", "long")]),
    ("log", described [("at", "date")])]

/-- Collections with names that start alike keep their definitions, also where one of them
defines a type twice. -/
theorem separate_collections_of_similar_names :
    SeparateCollections separateMetadata ∧
      ((mergedTypes (contributions {} separateMetadata)).map TypeDef.name).count
        "logs_unit_price_range_args" = 2 ∧
      ∃ schema, (build {} .empty separateMetadata).schema = .ok schema ∧
        KeepsDefinitions {} separateMetadata schema := by
  have separate : SeparateCollections separateMetadata := ⟨by decide, by decide⟩
  refine ⟨separate, by decide +kernel, ?_⟩
  cases built : (build {} .empty separateMetadata).schema with
  | ok schema => exact ⟨schema, rfl, separate_collections_keep_definitions separate built⟩
  | error error =>
      have unusable := (build_eq_error_iff.mp built).2 ("log", _)
        (List.mem_cons_of_mem _ List.mem_cons_self)
      cases unusable

end DocQuery.Compile
