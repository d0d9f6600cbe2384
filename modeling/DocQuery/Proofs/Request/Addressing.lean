import DocQuery.Proofs.Request.Filters
import DocQuery.Proofs.Request.Records
import DocQuery.Proofs.Request.Requested
import DocQuery.Proofs.Session.Opened
import DocQuery.Store.Sample

/-!
# Which store field a name addresses

A name in a request stands for a store field in three places: where it is selected,
in a filter, and below an aggregation. The first two ask the registry, which all
collections share and in which a later name hides an earlier one; the third asks the
fields of the collection. `Session.requests_address_latest_name` says which store
fields these are and when they agree. Collections are compiled side by side, so which
name is the later one is up to the interleaving of their registrations.
-/

namespace DocQuery

/-- Wherever a name is selected, the store is asked for a store field. -/
def Projection.Addresses (registry : Registry) (name storeName : String) : Prop :=
  ∀ selection : SelectionSet, name ∈ selection.names →
    (Projection.ofSelection registry selection).source.admits storeName = true

/-- Wherever a filter has bounds for a name, the query has them for a store field. -/
def Filter.Addresses (registry : Registry) (name storeName : String) : Prop :=
  ∀ (filter : Filter) (clause : Clause) (conditions : OrderedMap String Condition)
    (bounds : OrderedMap RangeOp Json) (clauses : Clauses),
    filter.find? clause = some conditions → conditions.find? name = some ⟨some bounds⟩ →
      bounds.isEmpty = false → Filter.toQuery registry (some filter) = .bool clauses →
        .range ⟨storeName, bounds⟩ ∈ clauses.under clause

/-- Wherever a name is selected under a kind, the search has an entry of that kind
for a store field. -/
def Requested.Addresses (target : Target) (name storeName : String) : Prop :=
  ∀ (selection : SelectionSet) (kind : AggregationKind), ∀ selected ∈ selection,
    AggregationKind.ofName? selected.name = some kind →
      name ∈ SelectionSet.names selected.children →
        Aggregation.of kind storeName ∈ (Requested.ofSelection target selection).entries

/-- A selected name addresses the store field that the registry has for it. -/
theorem Projection.addresses_iff {registry : Registry} {name storeName : String}
    (plain : Projection.isFieldName name = true) :
    Projection.Addresses registry name storeName ↔ storeName = registry.storeName name := by
  constructor
  · intro addresses
    obtain ⟨other, member, _, same⟩ :=
      Projection.admits_source_iff.mp (addresses [.leaf name] (List.mem_singleton.mpr rfl))
    rw [List.mem_singleton.mp member] at same
    exact same.symm
  · rintro rfl selection member
    exact Projection.admits_source_iff.mpr ⟨name, member, plain, rfl⟩

/-- A name in a filter addresses the store field that the registry has for it. -/
theorem Filter.addresses_iff {registry : Registry} {name storeName : String} :
    Filter.Addresses registry name storeName ↔ storeName = registry.storeName name := by
  constructor
  · intro addresses
    let bounds : OrderedMap RangeOp Json := .ofList [(.gte, .null)]
    let conditions : OrderedMap String Condition := .ofList [(name, ⟨some bounds⟩)]
    have own : conditions.find? name = some ⟨some bounds⟩ := by
      simp [conditions, OrderedMap.find?_ofList, Entries.findLast?]
    have bounded : bounds.isEmpty = false := rfl
    have member := addresses (.ofList [(.must, conditions)]) .must conditions bounds _ rfl own
      bounded rfl
    obtain ⟨_, key, condition, found, demanded, becomes⟩ :=
      (Filter.mem_under_toQuery_iff rfl).mp member
    rw [← Option.some.inj found] at demanded
    have listed := List.mem_singleton.mp (OrderedMap.find?_eq_some_iff_mem.mp demanded)
    simp only [Prod.mk.injEq] at listed
    obtain ⟨rfl, rfl⟩ := listed
    rw [Condition.range?_of_bounds bounded, Option.some.injEq, Range.mk.injEq] at becomes
    exact becomes.1.symm
  · rintro rfl filter clause conditions bounds clauses found demanded bounded translated
    refine (Filter.mem_under_toQuery_iff translated).mpr
      ⟨conditions, name, _, found, demanded, Condition.range?_of_bounds bounded⟩

/-- A name below an aggregation addresses the field of the collection. -/
theorem Requested.addresses_iff {target : Target} {name storeName : String}
    {field : DocumentField} (found : target.field? name = some field) :
    Requested.Addresses target name storeName ↔ storeName = field.storeName := by
  constructor
  · intro addresses
    have member := addresses [⟨"min", [.leaf name]⟩] .min _ (List.mem_singleton.mpr rfl) rfl
      (List.mem_singleton.mpr rfl)
    rw [Requested.of_mem_entries_iff, Requested.storeName_mem_fieldsUnder_iff] at member
    obtain ⟨_, listed, _, other, below, otherField, otherFound, same⟩ := member
    rw [List.mem_singleton.mp listed] at below
    rw [List.mem_singleton.mp below] at otherFound
    rw [← same, Option.some.inj (found.symm.trans otherFound)]
  · rintro rfl selection kind selected listed named below
    rw [Requested.of_mem_entries_iff, Requested.storeName_mem_fieldsUnder_iff]
    exact ⟨selected, listed, named, name, below, field, found, rfl⟩

/-- A name below an aggregation of a collection addresses the field of the collection, in
whatever order the collections were compiled. -/
theorem Compile.requested_addresses_iff {config : Config} {metadata : Fields} {schema : Schema}
    {compiled : List Contribution} (order : compiled.Perm (contributions config metadata))
    (assembled : assemble compiled = .ok schema) {contribution : Contribution}
    (contributed : contribution ∈ contributions config metadata) {identifier : String}
    {field : DocumentField} (found : fieldNamed? contribution.fields identifier = some field)
    {rootField : String} {resolver : Resolver}
    (resolved : schema.resolver rootField = .ok resolver)
    (acts : resolver.target.storeName = contribution.storeName) (storeName : String) :
    Requested.Addresses resolver.target identifier storeName ↔ storeName = field.storeName := by
  rw [target_of_resolver order assembled resolved contributed acts]
  exact Requested.addresses_iff ((field?_target contribution identifier).trans found)

/-- Whatever the interleaving, the fields of the collections are registered, so that there is a
name registered last for each of their identifiers. -/
theorem Compile.MayBuild.exists_latest {config : Config} {registry : Registry}
    {metadata : Fields} {history : List String} {result : Except Error Schema} {after : Registry}
    (built : MayBuild config registry metadata history result after)
    {contribution : Contribution} (contributed : contribution ∈ contributions config metadata)
    {field : DocumentField} (retained : field ∈ contribution.fields) :
    ∃ latest, Names.IsLatest history field.identifier latest := by
  have called : field.storeName ∈ history :=
    built.perm.mem_iff.mpr (field_mem_registrations contributed retained)
  obtain ⟨latest, last⟩ := Names.exists_latest? called
  rw [← (identifiers_of_contribution contributed).2 field retained] at last
  exact ⟨latest, Names.isLatest_iff.mpr last⟩

namespace Session

/-- For a handle that was built with a registry of its own, whatever order its collections
completed in and however their registrations were interleaved, and where no two fields of a
collection share an identifier: a name of the type of its documents is selected and filtered by
under the store name registered last for it, whatever collection that comes from, and
aggregated over under the store name of the field of the collection. The three are one exactly
if the store name of the field is the one registered last. -/
theorem requests_address_latest_name {config : Config} {metadata : Fields}
    {history : List String} {session : Session} {name identifier : String} {description : Json}
    {mapping : CollectionMapping}
    (built : Compile.MayBuild config .empty metadata history (.ok session.schema)
      session.registry)
    (described : metadata.find? name = some description)
    (usable : CollectionMapping.ofMetadata name description = .ok mapping)
    (distinct : ((Compile.retainedFields config mapping).map fun field =>
      Names.normalize field.storeName).Nodup)
    (present : ((Compile.documentType (Names.normalize name)
      (Compile.retainedFields config mapping)).field? identifier).isSome)
    (plain : Projection.isFieldName identifier = true) :
    history.Perm (Compile.registrations (Compile.contributions config metadata)) ∧
    ∃ field ∈ Compile.retainedFields config mapping,
      (∀ other ∈ Compile.retainedFields config mapping,
        Names.normalize other.storeName = identifier ↔ other = field) ∧
      ∃ latest, Names.IsLatest history identifier latest ∧
        (∀ storeName,
          Projection.Addresses session.registry identifier storeName ↔ storeName = latest) ∧
        (∀ storeName,
          Filter.Addresses session.registry identifier storeName ↔ storeName = latest) ∧
        ∀ rootField resolver, session.schema.resolver rootField = .ok resolver →
          resolver.target.storeName = name →
            (∀ storeName, Requested.Addresses resolver.target identifier storeName ↔
              storeName = field.storeName) ∧
            ((∃ storeName, Projection.Addresses session.registry identifier storeName ∧
                Filter.Addresses session.registry identifier storeName ∧
                Requested.Addresses resolver.target identifier storeName) ↔
              latest = field.storeName) := by
  have contributed := Compile.contribute_mem_contributions config described usable
  obtain rfl | ⟨field, found⟩ := Compile.isSome_field?_documentType_iff.mp present
  · simp [Projection.isFieldName] at plain
  obtain ⟨retained, named⟩ := Compile.mem_of_fieldNamed? found
  have normal := (Compile.identifiers_of_contribution contributed).2
  have unique : ∀ other ∈ Compile.retainedFields config mapping,
      Names.normalize other.storeName = identifier ↔ other = field := by
    intro other otherRetained
    constructor
    · intro otherNamed
      refine List.inj_on_of_nodup_map distinct otherRetained retained ?_
      rw [otherNamed, ← named, normal field retained]
    · rintro rfl
      rw [← normal other retained, named]
  obtain ⟨latest, last⟩ := built.exists_latest contributed retained
  rw [named] at last
  have registered := built.storeName_of_latest last
  have projected : ∀ storeName,
      Projection.Addresses session.registry identifier storeName ↔ storeName = latest := by
    intro storeName
    rw [Projection.addresses_iff plain, registered]
  have filtered : ∀ storeName,
      Filter.Addresses session.registry identifier storeName ↔ storeName = latest := by
    intro storeName
    rw [Filter.addresses_iff, registered]
  refine ⟨built.perm, field, retained, unique, latest, last, projected, filtered, ?_⟩
  intro rootField resolver resolved acts
  obtain ⟨completed, order, assembled⟩ := built.assembled
  have aggregated : ∀ storeName,
      Requested.Addresses resolver.target identifier storeName ↔
        storeName = field.storeName :=
    Compile.requested_addresses_iff order assembled contributed found resolved acts
  refine ⟨aggregated, ?_⟩
  constructor
  · rintro ⟨storeName, selects, _, aggregates⟩
    rw [← (projected storeName).mp selects, (aggregated storeName).mp aggregates]
  · intro same
    exact ⟨latest, (projected latest).mpr rfl, (filtered latest).mpr rfl,
      (aggregated latest).mpr same⟩

/-- Two collections with a field each; the fields share an identifier. -/
def overlappingMetadata : Fields :=
  .ofList [("orders", Memory.metadataOf [("unit price", "float")]),
    ("parts", Memory.metadataOf [("unit_price", "float")])]

/-- The metadata lists the field of the orders. -/
theorem described_orders :
    overlappingMetadata.find? "orders" = some (Memory.metadataOf [("unit price", "float")]) ∧
      CollectionMapping.ofMetadata "orders" (Memory.metadataOf [("unit price", "float")]) =
        .ok [("unit price", .leaf "float")] :=
  ⟨by decide, rfl⟩

/-- A session can be opened over the metadata. -/
theorem exists_session_of_overlapping : ∃ session trace,
    start {} .empty ⟨.empty, []⟩ (some overlappingMetadata) none = (.ok session, trace) ∧
      Built {} .empty overlappingMetadata session := by
  obtain ⟨described, usable⟩ := described_orders
  obtain ⟨session, trace, started⟩ : ∃ session trace,
      start {} .empty ⟨.empty, []⟩ (some overlappingMetadata) none = (.ok session, trace) :=
    exists_start described usable
  exact ⟨session, trace, started, (opened_of_start started).toBuilt⟩

/-- The price of an order is asked for under the name that it has in the other collection if
the orders are registered first, and under its own name if they are registered last. -/
theorem requests_address_overlapping_name :
    ∃ session trace,
      start {} .empty ⟨.empty, []⟩ (some overlappingMetadata) none = (.ok session, trace) ∧
        Projection.Addresses session.registry "unit_price" "unit_price" ∧
        Filter.Addresses session.registry "unit_price" "unit_price" ∧
      ∃ other : Session,
        Compile.MayBuild {} .empty overlappingMetadata
          ["parts", "unit_price", "orders", "unit price"] (.ok other.schema) other.registry ∧
        Projection.Addresses other.registry "unit_price" "unit price" ∧
        Filter.Addresses other.registry "unit_price" "unit price" := by
  obtain ⟨described, usable⟩ := described_orders
  obtain ⟨session, trace, started, built⟩ := exists_session_of_overlapping
  obtain ⟨_, _, _, _, latest, last, projected, filtered, _⟩ :=
    requests_address_latest_name built.mayBuild described usable (by decide)
      (by decide : ((Compile.documentType _ _).field? "unit_price").isSome) (by decide)
  have theirs : "unit_price" = latest :=
    Option.some.inj (Eq.trans (by decide) (Names.isLatest_iff.mp last))
  -- The task of the parts comes first, then that of the orders.
  let partsFirst : List String := ["parts", "unit_price", "orders", "unit price"]
  let other : Session := { session with registry := .registerAll .empty partsFirst }
  have runs : Registering.Runs
      ⟨.empty, [["orders", "unit price"], ["parts", "unit_price"]]⟩ partsFirst
        ⟨other.registry, [[], []]⟩ :=
    (Registering.runs_task _ [["orders", "unit price"]] [] ["parts", "unit_price"]).trans
      (Registering.runs_task _ [] [[]] ["orders", "unit price"])
  have otherBuilt : Compile.MayBuild {} .empty overlappingMetadata partsFirst
      (.ok other.schema) other.registry :=
    ⟨⟨_, .refl _, built.assembled⟩, _, runs, by simp [Registering.Complete], rfl⟩
  obtain ⟨_, _, _, _, otherLatest, otherLast, otherProjected, otherFiltered, _⟩ :=
    requests_address_latest_name otherBuilt described usable (by decide)
      (by decide : ((Compile.documentType _ _).field? "unit_price").isSome) (by decide)
  have own : "unit price" = otherLatest :=
    Option.some.inj (Eq.trans (by decide) (Names.isLatest_iff.mp otherLast))
  exact ⟨session, trace, started, (projected _).mpr theirs, (filtered _).mpr theirs,
    other, otherBuilt, (otherProjected _).mpr own, (otherFiltered _).mpr own⟩

/-- No two fields of one collection share an identifier, and still, in whatever order the
collections complete and their names are registered, the price of one of them is not selected
and not filtered by under its own name, but only aggregated. -/
theorem overlapping_name_not_addressed_alike :
    (∀ contribution ∈ Compile.contributions {} overlappingMetadata,
      (contribution.fields.map fun field => Names.normalize field.storeName).Nodup) ∧
    (∃ session trace,
      start {} .empty ⟨.empty, []⟩ (some overlappingMetadata) none = (.ok session, trace) ∧
        Compile.MayBuild {} .empty overlappingMetadata
          (Compile.registrations (Compile.contributions {} overlappingMetadata))
          (.ok session.schema) session.registry) ∧
    ∀ (history : List String) (session : Session),
      Compile.MayBuild {} .empty overlappingMetadata history (.ok session.schema)
        session.registry →
      ∃ contribution ∈ Compile.contributions {} overlappingMetadata,
        ∃ field ∈ contribution.fields, Names.normalize field.storeName = "unit_price" ∧
        (∃ type, session.schema.object? (Compile.documentName contribution.identifier) =
          some type ∧ (type.field? "unit_price").isSome) ∧
        ¬ Projection.Addresses session.registry "unit_price" field.storeName ∧
        ¬ Filter.Addresses session.registry "unit_price" field.storeName ∧
        ∀ rootField resolver, session.schema.resolver rootField = .ok resolver →
          resolver.target.storeName = contribution.storeName →
            Requested.Addresses resolver.target "unit_price" field.storeName := by
  refine ⟨by decide, ?built, ?missed⟩
  case built =>
    obtain ⟨session, trace, started, built⟩ := exists_session_of_overlapping
    exact ⟨session, trace, started, built.mayBuild⟩
  case missed =>
    intro history session built
    have assembled := built.result_eq (by decide)
    have separate : ∀ contribution ∈ Compile.contributions {} overlappingMetadata,
        ∀ other ∈ Compile.contributions {} overlappingMetadata,
          other.identifier = contribution.identifier →
            other.storeName = contribution.storeName := by decide
    -- The identifier stands for one store name, so the collection that has the other is missed.
    have owned : ∀ own ∈ ["unit price", "unit_price"],
        ∃ contribution ∈ Compile.contributions {} overlappingMetadata,
          (Compile.fieldNamed? contribution.fields "unit_price").map DocumentField.storeName =
            some own := by decide
    obtain ⟨own, listed, differs⟩ :
        ∃ own ∈ ["unit price", "unit_price"], own ≠ session.registry.storeName "unit_price" := by
      by_cases same : session.registry.storeName "unit_price" = "unit price"
      · exact ⟨"unit_price", by decide, by rw [same]; decide⟩
      · exact ⟨"unit price", by decide, fun equal => same equal.symm⟩
    obtain ⟨contribution, contributed, owns⟩ := owned own listed
    obtain ⟨field, found, rfl⟩ := Option.map_eq_some_iff.mp owns
    obtain ⟨retained, named⟩ := Compile.mem_of_fieldNamed? found
    have typed := Compile.object?_documentName_of_assembled assembled contributed
      (separate contribution contributed)
    refine ⟨contribution, contributed, field, retained, ?_, ⟨_, typed,
      Compile.isSome_field?_documentType_iff.mpr (.inr ⟨field, found⟩)⟩, ?_, ?_, ?_⟩
    · rw [← (Compile.identifiers_of_contribution contributed).2 field retained, named]
    · rw [Projection.addresses_iff (by decide)]
      exact differs
    · rw [Filter.addresses_iff]
      exact differs
    · intro rootField resolver resolved acts
      exact (Compile.requested_addresses_iff (.refl _) assembled contributed found resolved acts
        field.storeName).mpr rfl

end Session

end DocQuery
