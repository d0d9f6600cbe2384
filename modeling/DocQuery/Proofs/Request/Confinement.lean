import DocQuery.Proofs.Request.Fetching
import Mathlib.Data.List.Forall2

/-!
# Nothing but the selection

A store is trusted as far as the source filter goes: its hits have only fields that were
asked for. `Session.records_are_confined` turns this into what a caller sees. Whatever
names have been registered before, and whatever they have in common, each record has only
selected keys, and under the key of the id nothing but the id of its hit.
-/

namespace DocQuery

namespace Projection

/-- A selection of nothing but the id and names that ask about the query itself needs no
part of the documents, and no other selection does. -/
theorem source_eq_disabled_iff {registry : Registry} {selection : SelectionSet} :
    (ofSelection registry selection).source = .disabled ↔
      ∀ name ∈ selection.names, name = idName ∨ isMeta name = true := by
  have unselected : (ofSelection registry selection).fields = [] ↔
      ∀ name ∈ selection.names, ¬ isFieldName name = true := by
    simp only [ofSelection, List.eq_nil_iff_forall_not_mem, List.mem_eraseDups, List.mem_map,
      List.mem_filter]
    grind
  have disabled : (ofSelection registry selection).source = .disabled ↔
      (ofSelection registry selection).fields = [] := by
    rw [source, SourceFilter.ofFields]
    split
    · rename_i nothing
      simpa using nothing
    · rename_i something
      simpa using something
  rw [disabled, unselected]
  simp [isFieldName, or_iff_not_imp_left]

end Projection

namespace Session

variable {session : Session} {request : Request}

/-- What the store answers to the operation of a request for documents has these hits. -/
def Brings (session : Session) (request : Request) (access : Access) (operation : Operation)
    (store : ScriptedStore) (hits : List Hit) : Prop :=
  ∃ response,
    (store.call (session.config.hasDeadline request.timeout) operation).answer operation =
      .ok response ∧ access.hits? response = some hits

/-- A request for documents yields exactly the records of the hits that the answer to it
brings, each made from what is registered and selected. -/
theorem exists_operation_of_accepts {resolver : Resolver}
    (found : session.schema.resolver request.field = .ok resolver)
    (documents : resolver.access ≠ .aggregations)
    (accepted : resolver.access.Accepts request.arguments) :
    let projection := Projection.ofSelection session.registry request.selection
    ∃ operation, session.Sends request operation ∧
      operation.source? = some projection.source ∧
      ∀ (store : ScriptedStore) (value : Json),
        ({ session with store }.step (.resolve request)).yielded = .value (.ok value) ↔
          ∃ hits, session.Brings request resolver.access operation store hits ∧
            value = resolver.access.present (hits.map
              (Record.fields session.registry resolver.target projection.includesId)) := by
  intro projection
  obtain ⟨operation, reading, planned, _, needed, shows⟩ :=
    Resolver.exists_plan_of_accepts session.registry request.selection documents accepted
  refine ⟨operation, sends_of_plan found planned, needed, ?_⟩
  intro store value
  rw [yielded_of_plan found planned store]
  unfold Brings
  cases (store.call (session.config.hasDeadline request.timeout) operation).answer operation with
  | error error =>
      constructor
      · intro yielded
        cases yielded
      · rintro ⟨hits, ⟨response, answered, _⟩, _⟩
        cases answered
  | ok response =>
      have read : Outcome.value (((reading.read session.registry resolver.target response).map
          Logged.value).mapError resolver.failure) = .value (.ok value) ↔
            ((reading.read session.registry resolver.target response).map
              Logged.value).toOption = some value := by
        cases (reading.read session.registry resolver.target response).map Logged.value <;>
          simp [Except.mapError, Except.toOption]
      refine read.trans ?_
      rw [shows response, Option.map_eq_some_iff]
      constructor
      · rintro ⟨hits, brought, rfl⟩
        exact ⟨hits, ⟨response, rfl, brought⟩, rfl⟩
      · rintro ⟨hits, ⟨_, answered, brought⟩, rfl⟩
        cases answered
        exact ⟨hits, brought, rfl⟩

/-- Whatever has been registered before, a request for documents returns nothing outside
its selection. Its operation asks for no part of the documents exactly if no field is
selected. It yields a value only for hits; if these are within what was asked for, the
value is a record of each, confined to the selection. -/
theorem records_are_confined {history : List String} {resolver : Resolver}
    (registered : session.registry = Registry.empty.registerAll history)
    (found : session.schema.resolver request.field = .ok resolver)
    (documents : resolver.access ≠ .aggregations)
    (accepted : resolver.access.Accepts request.arguments)
    (identifiers : ∀ name ∈ request.selection.names, Names.IsIdentifier name) :
    let source := (Projection.ofSelection session.registry request.selection).source
    ∃ operation, session.Sends request operation ∧ operation.source? = some source ∧
      (source = .disabled ↔ ∀ name ∈ request.selection.names,
        name = Projection.idName ∨ Projection.isMeta name = true) ∧
      ∀ store : ScriptedStore,
        let yielded := ({ session with store }.step (.resolve request)).yielded
        (∀ value, yielded = .value (.ok value) →
          ∃ hits, session.Brings request resolver.access operation store hits) ∧
        ∀ hits, session.Brings request resolver.access operation store hits →
          (∀ hit ∈ hits, hit.Within source) → ∃ records,
            yielded = .value (.ok (resolver.access.present records)) ∧
            List.Forall₂ (Record.Confined request.selection) hits records := by
  intro source
  obtain ⟨operation, sends, needed, yields⟩ := exists_operation_of_accepts found documents accepted
  refine ⟨operation, sends, needed, Projection.source_eq_disabled_iff, ?_⟩
  intro store yielded
  refine ⟨?brought, ?confined⟩
  case brought =>
    intro value valued
    obtain ⟨hits, brings, _⟩ := (yields store value).mp valued
    exact ⟨hits, brings⟩
  case confined =>
    intro hits brings within
    refine ⟨_, (yields store _).mpr ⟨hits, brings, rfl⟩, ?_⟩
    rw [List.forall₂_map_right_iff, List.forall₂_same]
    intro hit member
    exact Record.confined_fields registered identifiers (within hit member)

/-- After another name has taken over the identifier of the sensor, readings are asked for
under that name, and the records of a reply that has it are confined. -/
theorem records_of_readings_are_confined :
    let request : Request :=
      { field := "es_index"
        arguments := .ofList [("size", .ofNat 2)]
        selection := ["id", "sensor", "__typename"].map Selection.leaf
        timeout := none }
    let hits : List Hit := [⟨"a", .ofList [("sensor?", .string "alpha")]⟩, ⟨"b", .empty⟩]
    let store : ScriptedStore := ⟨.readings, [.answers (.hits ⟨hits, .empty⟩)]⟩
    ∃ session trace, start {} .empty ⟨.readings, []⟩ none none = (.ok session, trace) ∧
      let shadowed := (session.step (.register "sensor?")).state
      ∃ records, ({ shadowed with store }.step (.resolve request)).yielded =
          .value (.ok (Access.list.present records)) ∧
        List.Forall₂ (Record.Confined request.selection) hits records := by
  intro request hits store
  obtain ⟨session, trace, started, opened, found⟩ := exists_session_of_readings
  let names := Compile.registrations (Compile.contributions {} (Memory.readings.getMappings "*"))
  have registered : (session.step (.register "sensor?")).state.registry =
      Registry.empty.registerAll (names ++ ["sensor?"]) := by
    rw [Registry.registerAll_append]
    exact congrArg (Registry.register · "sensor?") opened.registered
  have listFound : (session.step (.register "sensor?")).state.schema.resolver request.field = _ :=
    found .list (by decide)
  obtain ⟨operation, sends, needed, _, confined⟩ :=
    records_are_confined registered listFound (by decide) ⟨⟨_, rfl⟩, _, rfl⟩ (by decide)
  have answered : ∀ deadline, (store.call deadline operation).answer operation =
      .ok (.hits ⟨hits, .empty⟩) := fun _ => rfl
  refine ⟨session, trace, started, (confined store).2 hits ⟨_, answered _, rfl⟩ ?_⟩
  rw [registered]
  decide

end Session

end DocQuery
