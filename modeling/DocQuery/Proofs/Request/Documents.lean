import DocQuery.Proofs.Request.Fetching
import Mathlib.Data.List.Forall2

/-!
# Listing documents

`Session.list_shows_documents` follows a list of documents from the metadata to the
records: the collection is found under its name, the store selects and reduces its
documents, and every record shows its document.
-/

namespace DocQuery

/-- The store answers the search of a list with the selected documents, and reading
the answer makes a record of each. -/
theorem Resolver.answer_list {registry : Registry} {memory : Memory} {target : Target}
    {arguments : Fields} {selection : SelectionSet} {collection : Collection} {size : Nat}
    {filter : Option Filter} (stored : memory.collections.find? target.storeName = some collection)
    (sizeRead : Arguments.size arguments = .ok size)
    (filterRead : Arguments.filter arguments = .ok filter) :
    Resolver.answer ⟨.list, target⟩ registry memory arguments selection =
      .ok (.array ((((collection.documents.entries.filter fun document =>
        (Filter.toQuery registry filter).holds document.2).take size).map
          (Record.ofDocument registry target selection)).map Json.ofFields)) := by
  rw [Resolver.answer, Resolver.plan_list sizeRead filterRead]
  show Except.mapError _ (memory.answer _ >>= _) = _
  simp only [Memory.answer, Memory.collection, stored]
  show Except.ok (Json.array ((List.map _ _).map _)) = _
  rw [List.map_map, List.map_map]
  rfl

namespace Session

/-- Over a store in memory, and with names that do not collide, a collection lists
the first documents that match the filter, in the order of the store, and each
record shows its document. Between opening and listing the store may have changed. -/
theorem list_shows_documents {config : Config} {memory : Memory} {given : Option Fields}
    {timeout : Option Nat} {session : Session} {trace : Trace} (change : Memory → Memory)
    {name : String} {description : Json} {mapping : CollectionMapping}
    {collection : Collection} (request : Request) {size : Nat} {filter : Option Filter}
    (started : start config .empty ⟨memory, []⟩ given timeout = (.ok session, trace))
    (free : session.registry.CollisionFree)
    (described :
      (given.getD (memory.getMappings config.includePattern)).find? name = some description)
    (usable : CollectionMapping.ofMetadata name description = .ok mapping)
    (stored : (change memory).collections.find? name = some collection)
    (field : request.field = Names.normalize name)
    (sizeRead : Arguments.size request.arguments = .ok size)
    (filterRead : Arguments.filter request.arguments = .ok filter)
    (selected : ∀ key ∈ request.selection.names, Projection.isMeta key = false ∧
      ∃ type, session.schema.object? (Compile.documentName (Names.normalize name)) = some type ∧
        (type.field? key).isSome) :
    ∃ records,
      ((session.changeMemory change).step (.resolve request)).yielded =
        .value (.ok (.array (records.map Json.ofFields))) ∧
      List.Forall₂ (Record.Shows (Compile.retainedFields config mapping) request.selection)
        ((collection.documents.entries.filter fun document =>
          (Filter.toQuery session.registry filter).holds document.2).take size)
        records := by
  have opened := opened_of_start started
  have registered := opened.registered
  have contributed := Compile.contribute_mem_contributions config described usable
  have alone := Compile.storeName_eq_of_identifier_eq (registered ▸ free) contributed
  have found := Compile.resolver_list_of_assembled opened.assembled contributed alone
  have typed := Compile.object?_documentName_of_assembled opened.assembled contributed alone
  -- The selection is of names of the type found in the schema, which is the generated one.
  have known : ∀ key ∈ request.selection.names, Projection.isMeta key = false ∧
      (key = Projection.idName ∨
        ∃ field, Compile.fieldNamed? (Compile.contribute config name mapping).fields key =
          some field) := by
    intro key member
    obtain ⟨plain, type, generated, present⟩ := selected key member
    have own := Option.some.inj (generated.symm.trans typed)
    subst own
    exact ⟨plain, Compile.isSome_field?_documentType_iff.mp present⟩
  have addressed : (session.changeMemory change).schema.resolver request.field =
      .ok ⟨.list, (Compile.contribute config name mapping).target⟩ := by
    rw [field]
    exact found
  rw [step_resolve (opened.changeMemory change).unscripted addressed,
    Resolver.answer_list stored sizeRead filterRead]
  refine ⟨_, rfl, List.forall₂_map_right_iff.mpr (List.forall₂_same.mpr ?_)⟩
  intro document _
  exact Record.shows_ofDocument registered free contributed known document

/-- Readings are listed with their id and some fields, one of them selected twice. -/
theorem list_of_readings_shows_documents :
    let request : Request :=
      { field := "es_index"
        arguments := .ofList [("size", .ofNat 2), ("boolean_query", .object [("must",
          .object [("count", .object [("range", .object [("gte", .ofNat 2)])])])])]
        selection := ["id", "timestamp", "plus_X_Temperature", "timestamp"].map Selection.leaf
        timeout := none }
    ∃ session trace, start {} .empty ⟨.readings, []⟩ none none = (.ok session, trace) ∧
      ∃ filter, Arguments.filter request.arguments = .ok (some filter) ∧ ∃ collection records,
        Memory.readings.collections.find? "es-index" = some collection ∧
        (session.step (.resolve request)).yielded =
          .value (.ok (.array (records.map Json.ofFields))) ∧
        List.Forall₂
          (Record.Shows (Compile.retainedFields {} Memory.readingsMapping) request.selection)
          ((collection.documents.entries.filter fun document =>
            (Filter.toQuery session.registry (some filter)).holds document.2).take 2)
          records := by
  intro request
  obtain ⟨description, described, usable⟩ := Memory.exists_description_of_readings
  obtain ⟨session, trace, started⟩ : ∃ session trace,
      start {} .empty ⟨.readings, []⟩ none none = (.ok session, trace) :=
    exists_start described usable
  have opened := opened_of_start started
  have free : session.registry.CollisionFree := by
    rw [opened.registered, Registry.collisionFree_registerAll_empty_iff]
    decide
  have contributed := Compile.contribute_mem_contributions {} described usable
  have typed := Compile.object?_documentName_of_assembled opened.assembled contributed
    (Compile.storeName_eq_of_identifier_eq (opened.registered ▸ free) contributed)
  have selected : ∀ key ∈ request.selection.names, Projection.isMeta key = false ∧
      ∃ type, session.schema.object? (Compile.documentName (Names.normalize "es-index")) =
        some type ∧ (type.field? key).isSome := by
    intro key member
    refine ⟨?_, _, typed, ?_⟩
    · revert key
      decide
    · revert key
      decide
  obtain ⟨records, yielded, shown⟩ :=
    list_shows_documents id request started free described usable rfl rfl rfl rfl selected
  exact ⟨session, trace, started, _, rfl, _, records, rfl, yielded, shown⟩

end Session

end DocQuery
