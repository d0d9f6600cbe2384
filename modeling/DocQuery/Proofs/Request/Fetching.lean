import DocQuery.Proofs.Request.Records
import DocQuery.Proofs.Schema.Separation
import DocQuery.Proofs.Session.Opened

/-!
# What a request for documents asks of the store

The schema offers every retained field of a collection, and a selection asks the store
for the names behind the selected ones, whatever the schema offers.
`Session.advertised_fields_are_fetched` brings the two together: without collisions a
field that is offered and selected is asked for. Names that start with two underscores
are the exception, since a selection takes them to ask about the query itself;
`Session.reserved_field_is_not_fetched` has a field with such a name.
-/

namespace DocQuery

/-- The part of each document that an operation asks for. -/
def Operation.source? : Operation → Option SourceFilter
  | .getMappings _ => none
  | .getById request => some request.source
  | .search request => some request.source

namespace Access

/-- The arguments of a root field can be read. -/
def Accepts (arguments : Fields) : Access → Prop
  | .list =>
    (∃ size, Arguments.size arguments = .ok size) ∧
      ∃ filter, Arguments.filter arguments = .ok filter
  | .byId => ∃ id, Arguments.id arguments = .ok id
  | .aggregations => ∃ filter, Arguments.filter arguments = .ok filter

/-- The hits in an answer to a request for documents. -/
def hits? : Access → Response → Option (List Hit)
  | .list, .hits found => some found.hits
  | .byId, .document found => some found.toList
  | _, _ => none

/-- What a root field makes of its records: a list of them, or the only one. -/
def present : Access → List Fields → Json
  | .list, records => .array (records.map Json.ofFields)
  | _, records => (records.head?.map Json.ofFields).getD .null

end Access

namespace Resolver

variable {registry : Registry} {target : Target} {arguments : Fields} {selection : SelectionSet}

/-- A list is asked for as a search. -/
theorem plan_list {size : Nat} {filter : Option Filter}
    (sizeRead : Arguments.size arguments = .ok size)
    (filterRead : Arguments.filter arguments = .ok filter) :
    Resolver.plan registry ⟨.list, target⟩ arguments selection =
      .ok (.asks
        (.search
          { collection := target.storeName
            query := Filter.toQuery registry filter
            size
            source := (Projection.ofSelection registry selection).source
            aggregations := [] })
        (.documents (Projection.ofSelection registry selection).includesId)) := by
  simp only [Resolver.plan, Resolver.listPlan, sizeRead, filterRead]
  rfl

/-- A document is asked for by its id. -/
theorem plan_byId {id : String} (idRead : Arguments.id arguments = .ok id) :
    Resolver.plan registry ⟨.byId, target⟩ arguments selection =
      .ok (.asks
        (.getById ⟨target.storeName, id, (Projection.ofSelection registry selection).source⟩)
        (.document (Projection.ofSelection registry selection).includesId)) := by
  simp only [Resolver.plan, Resolver.byIdPlan, idRead]
  rfl

/-- A root field that shows documents asks its collection for the part of them that the
selection needs. It shows a record of each hit, and fails on an answer without hits. -/
theorem exists_plan_of_accepts (registry : Registry) (selection : SelectionSet)
    {resolver : Resolver} (documents : resolver.access ≠ .aggregations)
    (accepted : resolver.access.Accepts arguments) :
    ∃ operation reading,
      resolver.plan registry arguments selection = .ok (.asks operation reading) ∧
        operation.target = resolver.target.storeName ∧
        operation.source? = some (Projection.ofSelection registry selection).source ∧
        ∀ response,
          ((reading.read registry resolver.target response).map Logged.value).toOption =
            (resolver.access.hits? response).map fun hits =>
              resolver.access.present (hits.map (Record.fields registry resolver.target
                (Projection.ofSelection registry selection).includesId)) := by
  obtain ⟨access, target⟩ := resolver
  cases access with
  | list =>
      obtain ⟨⟨size, sizeRead⟩, filter, filterRead⟩ := accepted
      refine ⟨_, _, plan_list sizeRead filterRead, rfl, rfl, ?_⟩
      intro response
      cases response with
      | hits found =>
          show some (Json.array _) = some (Json.array _)
          rw [List.map_map]
          rfl
      | mappings metadata => rfl
      | document found => rfl
  | byId =>
      obtain ⟨id, idRead⟩ := accepted
      refine ⟨_, _, plan_byId idRead, rfl, rfl, ?_⟩
      intro response
      cases response with
      | document found => cases found <;> rfl
      | mappings metadata => rfl
      | hits found => rfl
  | aggregations => exact absurd rfl documents

end Resolver

/-- Of one call the store completes at most this call. -/
theorem Progress.operations_ofDelivery (config : Config) (registry : Registry)
    (resolver : Resolver) (operation : Operation) (reading : Reading) (delivery : Delivery) :
    delivery = .cutOff ∨
      (ofDelivery config registry resolver operation reading delivery).trace.exchanges.map
        Exchange.operation = [operation] := by
  have made := (Call.exchanges_through config operation delivery).1
  have answered := (Call.exchanges_through config operation delivery).2
  -- What reading the answer leaves behind is in the log alone.
  have finished : (ofDelivery config registry resolver operation reading
      delivery).trace.exchanges = delivery.exchanges operation := by
    cases read : (do
        let response ← delivery.answer operation
        reading.read registry resolver.target response) <;>
      cases prompt : delivery.isPrompt <;>
        simp [ofDelivery, trace, read, prompt, made, answered, Trace.ofEvents, Trace.empty]
  rw [finished]
  cases delivery with
  | cutOff => exact .inl rfl
  | prompt answer => exact .inr rfl
  | late answer => exact .inr rfl

/-- A request with a plan makes one call, and goes on with what the call delivers. -/
theorem Request.run_of_plan {config : Config} {registry : Registry} {schema : Schema}
    {store : ScriptedStore} {request : Request} {resolver : Resolver} {operation : Operation}
    {reading : Reading} (found : schema.resolver request.field = .ok resolver)
    (planned : resolver.plan registry request.arguments request.selection =
      .ok (.asks operation reading)) :
    request.run config registry schema store =
      (.ofDelivery config registry resolver operation reading
        (store.call (config.hasDeadline request.timeout) operation), store.afterCall) := by
  simp only [Request.run, Request.intent, found, planned]

namespace Session

/-- Whatever the store holds and replies, the request is sent to it as one operation: the
next reply is to this one, and it is the only one that the store completes. A call that
is cut off by its deadline is never completed. -/
def Sends (session : Session) (request : Request) (operation : Operation) : Prop :=
  ∀ store : ScriptedStore,
    let advance := { session with store }.step (.resolve request)
    advance.state.store = store.afterCall ∧
      (store.call (session.config.hasDeadline request.timeout) operation = .cutOff ∨
        advance.trace.exchanges.map Exchange.operation = [operation])

/-- The request is sent to a collection, and asks for a store field. -/
def Fetches (session : Session) (request : Request) (collection storeName : String) : Prop :=
  ∃ operation source, session.Sends request operation ∧ operation.target = collection ∧
    operation.source? = some source ∧ source.admits storeName = true

variable {session : Session} {request : Request}

/-- A request is sent as the operation of its plan. -/
theorem sends_of_plan {resolver : Resolver} {operation : Operation} {reading : Reading}
    (found : session.schema.resolver request.field = .ok resolver)
    (planned : resolver.plan session.registry request.arguments request.selection =
      .ok (.asks operation reading)) :
    session.Sends request operation := by
  intro store
  show (request.run session.config session.registry session.schema store).2 = _ ∧
    (_ ∨ List.map _ (request.run session.config session.registry session.schema
      store).1.trace.exchanges = _)
  rw [Request.run_of_plan found planned]
  exact ⟨rfl, Progress.operations_ofDelivery ..⟩

/-- A request yields what the answer to its operation is read as. -/
theorem yielded_of_plan {resolver : Resolver} {operation : Operation} {reading : Reading}
    (found : session.schema.resolver request.field = .ok resolver)
    (planned : resolver.plan session.registry request.arguments request.selection =
      .ok (.asks operation reading)) (store : ScriptedStore) :
    ({ session with store }.step (.resolve request)).yielded =
      .value ((((store.call (session.config.hasDeadline request.timeout) operation).answer
        operation >>= reading.read session.registry resolver.target).map
          Logged.value).mapError resolver.failure) := by
  show Outcome.value (request.run session.config session.registry session.schema
    store).1.result = _
  rw [Request.run_of_plan found planned, Progress.result_ofDelivery]

/-- A request is sent as one operation only. -/
theorem Sends.unique {operation other : Operation} (sends : session.Sends request operation)
    (sendsOther : session.Sends request other) : operation = other := by
  have answered : ∀ deadline operation,
      ScriptedStore.call ⟨.empty, []⟩ deadline operation ≠ .cutOff :=
    fun _ _ cut => nomatch cut
  have completed := (sends ⟨.empty, []⟩).2.resolve_left (answered _ _)
  have completedOther := (sendsOther ⟨.empty, []⟩).2.resolve_left (answered _ _)
  exact (List.cons.inj (completed.symm.trans completedOther)).1

/-- A request for documents asks its collection for exactly the store names behind the
selected names of fields. -/
theorem fetches_iff {resolver : Resolver} {storeName : String}
    (found : session.schema.resolver request.field = .ok resolver)
    (documents : resolver.access ≠ .aggregations)
    (accepted : resolver.access.Accepts request.arguments) :
    session.Fetches request resolver.target.storeName storeName ↔
      ∃ name ∈ request.selection.names, Projection.isFieldName name = true ∧
        session.registry.storeName name = storeName := by
  obtain ⟨operation, reading, planned, addressed, needed, _⟩ :=
    Resolver.exists_plan_of_accepts session.registry request.selection documents accepted
  have sends := sends_of_plan found planned
  rw [← Projection.admits_source_iff]
  constructor
  · rintro ⟨other, source, sendsOther, _, asked, admitted⟩
    rw [sendsOther.unique sends, needed, Option.some.injEq] at asked
    rw [asked]
    exact admitted
  · intro admitted
    exact ⟨operation, _, sends, addressed, needed, admitted⟩

/-- Where names do not collide, a field that the schema offers for the documents of a
collection is fetched wherever it is selected, whether documents are listed or one is
asked for by its id: the store is asked for the only name that the field can stand for. -/
theorem advertised_fields_are_fetched {config : Config} {store : ScriptedStore}
    {given : Option Fields} {timeout : Option Nat} {trace : Trace} {metadata : Fields}
    {name identifier : String} {description : Json} {mapping : CollectionMapping}
    {type : ObjectType} {access : Access} {resolver : Resolver}
    (obtained : (metadataFor config store given timeout).yielded = .ok metadata)
    (started : start config .empty store given timeout = (.ok session, trace))
    (free : session.registry.CollisionFree)
    (described : metadata.find? name = some description)
    (usable : CollectionMapping.ofMetadata name description = .ok mapping)
    (typed : session.schema.object? (Compile.documentName (Names.normalize name)) = some type)
    (advertised : (type.field? identifier).isSome)
    (plain : Projection.isFieldName identifier = true)
    (documents : access ≠ .aggregations)
    (addressed : request.field = Names.normalize name ++ access.suffix)
    (found : session.schema.resolver request.field = .ok resolver)
    (own : resolver.target.storeName = name)
    (accepted : access.Accepts request.arguments)
    (selected : identifier ∈ request.selection.names) :
    ∃ field ∈ Compile.retainedFields config mapping,
      (∀ other ∈ Compile.retainedFields config mapping,
        Names.normalize other.storeName = identifier ↔ other.storeName = field.storeName) ∧
      session.Fetches request name field.storeName := by
  have built := (built_of_start obtained started).1
  have registered := built.registered
  have contributed := Compile.contribute_mem_contributions config described usable
  have alone := Compile.storeName_eq_of_identifier_eq (registered ▸ free) contributed
  have generated := Compile.object?_documentName_of_assembled built.assembled contributed alone
  rw [Option.some.inj (typed.symm.trans generated)] at advertised
  obtain rfl | ⟨offered, named⟩ := Compile.isSome_field?_documentType_iff.mp advertised
  · simp [Projection.isFieldName] at plain
  obtain ⟨retained, rfl⟩ := Compile.mem_of_fieldNamed? named
  have back : session.registry.storeName offered.identifier = offered.storeName := by
    rw [registered]
    exact Compile.storeName_identifier (registered ▸ free) contributed retained
  rw [addressed] at found
  obtain rfl := Compile.access_of_resolver (.refl _) built.assembled contributed found own
  rw [← addressed] at found
  refine ⟨offered, retained, fun other otherRetained =>
    Compile.normalize_eq_identifier_iff (registered ▸ free) contributed retained otherRetained, ?_⟩
  rw [← own, fetches_iff found documents accepted]
  exact ⟨offered.identifier, selected, plain, back⟩

/-- A session over the sample readings, with the root fields that show documents. -/
theorem exists_session_of_readings : ∃ session trace,
    start {} .empty ⟨.readings, []⟩ none none = (.ok session, trace) ∧
      Opened {} .empty .readings (Memory.readings.getMappings "*") session ∧
      ∀ access : Access, access ≠ .aggregations →
        session.schema.resolver ("es_index" ++ access.suffix) =
          .ok ⟨access, (Compile.contribute {} "es-index" Memory.readingsMapping).target⟩ := by
  obtain ⟨description, described, usable⟩ := Memory.exists_description_of_readings
  obtain ⟨session, trace, started⟩ : ∃ session trace,
      start {} .empty ⟨.readings, []⟩ none none = (.ok session, trace) :=
    exists_start described usable
  have opened := opened_of_start started
  have separate : Compile.SeparateCollections (Memory.readings.getMappings "*") :=
    ⟨by decide, by decide⟩
  have contributed := Compile.contribute_mem_contributions {} described usable
  exact ⟨session, trace, started, opened, fun access documents =>
    Compile.resolver_of_separate separate opened.assembled contributed documents⟩

/-- The temperature of readings is fetched under its name in the store, both for a list of
readings and for one reading. -/
theorem temperature_of_readings_is_fetched :
    let selection := ["id", "plus_X_Temperature"].map Selection.leaf
    let listed : Request := ⟨"es_index", .ofList [("size", .ofNat 2)], selection, none⟩
    let single : Request := ⟨"es_index_by_id", .ofList [("id", .string "a")], selection, none⟩
    ∃ session trace, start {} .empty ⟨.readings, []⟩ none none = (.ok session, trace) ∧
      session.Fetches listed "es-index" "+X Temperature" ∧
      session.Fetches single "es-index" "+X Temperature" := by
  intro selection listed single
  obtain ⟨description, described, usable⟩ := Memory.exists_description_of_readings
  obtain ⟨session, trace, started⟩ : ∃ session trace,
      start {} .empty ⟨.readings, []⟩ none none = (.ok session, trace) :=
    exists_start described usable
  have built := (opened_of_start started).toBuilt
  have free : session.registry.CollisionFree := by
    rw [built.registered, Registry.collisionFree_registerAll_empty_iff]
    decide
  have contributed := Compile.contribute_mem_contributions {} described usable
  have separate : Compile.SeparateCollections (Memory.readings.getMappings "*") :=
    ⟨by decide, by decide⟩
  have typed := Compile.object?_documentName_of_assembled built.assembled contributed
    (Compile.storeName_eq_of_identifier_eq (built.registered ▸ free) contributed)
  have stored : DocumentField.mk "+X Temperature" "plus_X_Temperature" "float" .float ∈
      Compile.retainedFields {} Memory.readingsMapping := by decide
  have fetched : ∀ access : Access, access ≠ .aggregations → ∀ request : Request,
      request.field = Names.normalize "es-index" ++ access.suffix →
        access.Accepts request.arguments → request.selection = selection →
          session.Fetches request "es-index" "+X Temperature" := by
    intro access documents request field accepted selected
    have found := Compile.resolver_of_separate separate built.assembled contributed documents
    obtain ⟨_, _, only, fetches⟩ := advertised_fields_are_fetched rfl started free described
      usable typed (by decide) (by decide : Projection.isFieldName "plus_X_Temperature" = true)
      documents field (field ▸ found) rfl accepted (by rw [selected]; decide)
    rwa [← (only _ stored).mp rfl] at fetches
  exact ⟨session, trace, started, fetched .list (by decide) listed rfl ⟨⟨_, rfl⟩, _, rfl⟩ rfl,
    fetched .byId (by decide) single rfl ⟨_, rfl⟩ rfl⟩

/-- A collection with a field whose name starts with two underscores. -/
def reservedMetadata : Fields := .ofList [("events", Memory.metadataOf [("__rev", "long")])]

/-- A field whose name starts with two underscores is offered like every other field, but
no request for documents asks the store for it. -/
theorem reserved_field_is_not_fetched :
    ∃ session trace,
      start {} .empty ⟨.empty, []⟩ (some reservedMetadata) none = (.ok session, trace) ∧
        session.registry.CollisionFree ∧
        (∃ type, session.schema.object? (Compile.documentName "events") = some type ∧
          (type.field? "__rev").isSome) ∧
        ∀ access : Access, access ≠ .aggregations → ∃ request resolver,
          request.field = "events" ++ access.suffix ∧
            session.schema.resolver request.field = .ok resolver ∧
            resolver.target.storeName = "events" ∧
            access.Accepts request.arguments ∧
            "__rev" ∈ request.selection.names ∧
            ∀ storeName, ¬ session.Fetches request "events" storeName := by
  have described : reservedMetadata.find? "events" =
      some (Memory.metadataOf [("__rev", "long")]) := by decide
  have usable : CollectionMapping.ofMetadata "events" (Memory.metadataOf [("__rev", "long")]) =
      .ok [("__rev", .leaf "long")] := rfl
  obtain ⟨session, trace, started⟩ : ∃ session trace,
      start {} .empty ⟨.empty, []⟩ (some reservedMetadata) none = (.ok session, trace) :=
    exists_start described usable
  have built := (opened_of_start started).toBuilt
  have free : session.registry.CollisionFree := by
    rw [built.registered, Registry.collisionFree_registerAll_empty_iff]
    decide
  have contributed := Compile.contribute_mem_contributions {} described usable
  have separate : Compile.SeparateCollections reservedMetadata := ⟨by decide, by decide⟩
  have typed := Compile.object?_documentName_of_assembled built.assembled contributed
    (Compile.storeName_eq_of_identifier_eq (built.registered ▸ free) contributed)
  refine ⟨session, trace, started, free, ⟨_, typed, by decide⟩, ?_⟩
  intro access documents
  let arguments : Fields := .ofList [("size", .ofNat 10), ("id", .string "e1")]
  have accepted : access.Accepts arguments := by
    cases access with
    | list => exact ⟨⟨_, rfl⟩, _, rfl⟩
    | byId => exact ⟨_, rfl⟩
    | aggregations => exact ⟨_, rfl⟩
  let request : Request := ⟨"events" ++ access.suffix, arguments, [.leaf "__rev"], none⟩
  have found : session.schema.resolver request.field = .ok ⟨access, _⟩ :=
    Compile.resolver_of_separate separate built.assembled contributed documents
  refine ⟨request, _, rfl, found, rfl, accepted, List.mem_singleton.mpr rfl, ?_⟩
  intro storeName fetches
  obtain ⟨name, member, plain, _⟩ := (fetches_iff found documents accepted).mp fetches
  rw [List.mem_singleton.mp member] at plain
  exact absurd plain (by decide)

end Session

end DocQuery
