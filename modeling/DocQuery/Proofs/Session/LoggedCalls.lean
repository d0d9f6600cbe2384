import DocQuery.Proofs.Json.DistinctKeys
import DocQuery.Session.Basic

/-!
# Calls and their log lines

Which operations reach the store in a step (`Session.calls`), and which lines of the log are
about them. Nothing else writes such lines (`Silent`), so that with queries logged the log
lists exactly the operations that reach the store, in their order
(`Session.queries_list_the_calls`).
-/

namespace DocQuery

/-- A log line about a call to the store. -/
def Event.isOfCall : Event → Bool
  | .storeQuery .. | .storeResult .. | .storeFailed .. => true
  | _ => false

/-- A log line that says what is asked of the store. -/
def Event.isQuery : Event → Bool
  | .storeQuery .. => true
  | _ => false

/-- No line of the log is about a call. -/
def Silent (events : List Event) : Prop := ∀ event ∈ events, event.isOfCall = false

namespace Silent

variable {events first second : List Event}

theorem nil : Silent [] := nofun

theorem single {event : Event} (off : event.isOfCall = false) : Silent [event] :=
  List.forall_mem_singleton.mpr off

theorem append (firstSilent : Silent first) (secondSilent : Silent second) :
    Silent (first ++ second) :=
  fun event listed => (List.mem_append.mp listed).elim (firstSilent event) (secondSilent event)

theorem optional {condition : Prop} [Decidable condition] (silent : Silent events) :
    Silent (if condition then events else []) := by
  split
  · exact silent
  · exact nil

theorem flatMap {ι : Type} {items : List ι} {part : ι → List Event}
    (silent : ∀ item, Silent (part item)) : Silent (items.flatMap part) := by
  intro event listed
  obtain ⟨item, _, inside⟩ := List.mem_flatMap.mp listed
  exact silent item event inside

end Silent

/-- What a name leaves in the log is not about calls. -/
theorem Registry.silent_registrationEvents (registry : Registry) (name : String) :
    Silent (registry.registrationEvents name) := by
  unfold registrationEvents
  split
  · exact .nil
  · split
    · exact .nil
    · exact .single rfl

namespace Compile

/-- What fields leave in the log is not about calls. -/
theorem silent_fieldEvents (config : Config) (registry : Registry) (mapping : CollectionMapping) :
    Silent (fieldEvents config registry mapping) := by
  induction mapping generalizing registry with
  | nil => exact .nil
  | cons head rest ih =>
      refine Silent.append ?_ (ih _)
      cases Verdict.of config head.1 head.2 with
      | ignored => exact .nil
      | withoutScalar => exact .single rfl
      | unsupported error => exact .single rfl
      | retained field => exact registry.silent_registrationEvents head.1

/-- Nor is what a collection leaves there. -/
theorem silent_contributionEvents (config : Config) (registry : Registry) (storeName : String)
    (mapping : CollectionMapping) :
    Silent (contributionEvents config registry storeName mapping) := by
  have named := registry.silent_registrationEvents storeName
  have scanned := silent_fieldEvents config (registry.register storeName) mapping
  exact (((named.append scanned).append (.single rfl)).append
    (Silent.single rfl).optional).append (Silent.single rfl).optional

/-- Nor is what a build leaves there. -/
theorem silent_build (config : Config) (registry : Registry) (metadata : Fields) :
    Silent (build config registry metadata).events := by
  have compiled : ∀ registry usable, Silent (compileEvents config registry usable) := by
    intro registry usable
    induction usable generalizing registry with
    | nil => exact .nil
    | cons head rest ih => exact (silent_contributionEvents _ _ _ _).append (ih _)
  have replaced : ∀ query fields, Silent (replacementEvents query fields) := by
    intro query fields
    induction fields generalizing query with
    | nil => exact .nil
    | cons head rest ih => exact (Silent.single rfl).optional.append (ih _)
  have ignored : Silent ((sort metadata).ignored.map fun entry =>
      .collectionIgnored entry.1 entry.2) := by
    intro event listed
    obtain ⟨_, _, rfl⟩ := List.mem_map.mp listed
    rfl
  refine (((compiled _ _).append ignored).append (replaced _ _)).append ?_
  split
  · exact .single rfl
  · exact .nil

end Compile

/-- What a record leaves in the log is not about calls. -/
theorem Record.silent_events (registry : Registry) (target : Target) (hit : Hit) :
    Silent (events registry target hit) := by
  intro event listed
  obtain ⟨⟨key, value⟩, _, dropped⟩ := List.mem_filterMap.mp listed
  simp only [event?] at dropped
  split at dropped
  · cases dropped
    rfl
  · cases dropped

/-- Nor is what reading an answer leaves there. -/
theorem Reading.silent_read {registry : Registry} {target : Target} {reading : Reading}
    {response : Response} {logged : Logged Json}
    (read : reading.read registry target response = .ok logged) : Silent logged.events := by
  cases reading with
  | documents includesId =>
      obtain ⟨found, _, made⟩ := Json.exists_ok_of_bind read
      cases made
      exact .flatMap (Record.silent_events registry target)
  | document includesId =>
      obtain ⟨found, _, made⟩ := Json.exists_ok_of_bind read
      cases found with
      | none =>
          cases made
          exact .nil
      | some hit =>
          cases made
          exact Record.silent_events registry target hit
  | aggregations requested =>
      obtain ⟨found, _, made⟩ := Json.exists_ok_of_bind read
      cases made
      refine .flatMap fun entry => .flatMap fun field => ?_
      cases Aggregation.outcome found.aggregations entry.1 field with
      | computed value => exact .nil
      | missing => exact .single rfl
      | malformed => exact .single rfl

/-- The operation by which a request goes to the store, if it does. -/
def Request.call? (registry : Registry) (schema : Schema) (request : Request) :
    Option Operation :=
  match request.intent registry schema with
  | .done _ => none
  | .call _ operation _ => some operation

/-- The operations by which a build goes to the store. -/
def buildCalls (config : Config) (given : Option Fields) : List Operation :=
  match given with
  | some _ => []
  | none => [.getMappings config.includePattern]

/-- The operations by which a command goes to the store, in order. A call that is cut off by its
deadline is one of them. -/
def Session.calls (session : Session) : Command → List Operation
  | .resolve request => (request.call? session.registry session.schema).toList
  | .execute requests => requests.filterMap (Request.call? session.registry session.schema)
  | .rebuild _ => buildCalls session.config none
  | _ => []

/-- The log lines that say what is asked of the store. -/
def Trace.queries (trace : Trace) : List Event := trace.events.filter Event.isQuery

/-- The log lines for operations that are asked of the store, with the given settings. -/
def Config.queryLines (config : Config) (operations : List Operation) : List Event :=
  if config.logQueries then
    operations.map fun operation =>
      .storeQuery operation.name operation.target operation.toJson.compact
  else []

@[simp] theorem Config.queryLines_nil (config : Config) : config.queryLines [] = [] := by
  unfold queryLines
  split <;> rfl

/-- Each operation has its own line. -/
theorem Config.queryLines_append (config : Config) (first second : List Operation) :
    config.queryLines (first ++ second) = config.queryLines first ++ config.queryLines second := by
  unfold queryLines
  split
  · exact List.map_append
  · rfl

namespace Trace

@[simp] theorem queries_empty : empty.queries = [] := rfl

@[simp] theorem queries_append (first second : Trace) :
    (first ++ second).queries = first.queries ++ second.queries :=
  List.filter_append ..

@[simp] theorem queries_concat (traces : List Trace) :
    (concat traces).queries = traces.flatMap queries := by
  induction traces with
  | nil => rfl
  | cons head rest ih =>
      show (head ++ concat rest).queries = _
      rw [queries_append, ih]
      rfl

/-- Lines that are not about calls say nothing of what is asked. -/
theorem queries_ofEvents {events : List Event} (silent : Silent events) :
    (ofEvents events).queries = [] := by
  refine List.filter_eq_nil_iff.mpr fun event listed query => ?_
  have quiet := silent event listed
  cases event with
  | storeQuery operation target text => cases quiet
  | _ => cases query

end Trace

/-- Every line about an answer is about a call, and says nothing of what is asked. -/
theorem Delivery.of_mem_lines {queries results : Bool} {operation : Operation}
    {delivery : Delivery} {event : Event}
    (listed : event ∈ delivery.lines queries results operation) :
    event.isOfCall = true ∧ event.isQuery = false := by
  have answered : ∀ answer, event ∈ lines.answerLines queries results operation answer →
      event.isOfCall = true ∧ event.isQuery = false := by
    intro answer written
    cases answer with
    | ok response =>
        rw [List.mem_singleton.mp (List.mem_ite_nil_right.mp written).2]
        exact ⟨rfl, rfl⟩
    | error error =>
        rw [List.mem_singleton.mp (List.mem_ite_nil_right.mp written).2]
        exact ⟨rfl, rfl⟩
  cases delivery with
  | prompt answer => exact answered answer listed
  | late answer => exact answered answer listed
  | cutOff => exact absurd listed List.not_mem_nil

namespace Call

/-- Logging a call adds a line for the query, if queries are logged, before what the inner call
leaves behind when it is made, and none that says what is asked behind its answer. -/
theorem queries_logged (queries results : Bool) (operation : Operation) (inner : Call) :
    (inner.logged queries results operation).made.queries =
        (if queries then
          [.storeQuery operation.name operation.target operation.toJson.compact] else []) ++
          inner.made.queries ∧
      ∀ delivery, ((inner.logged queries results operation).answered delivery).queries =
        (inner.answered delivery).queries := by
  refine ⟨?_, fun delivery => ?_⟩
  · rw [logged, Trace.queries_append]
    split <;> rfl
  · have nothing : (Trace.ofEvents
        ((inner.passes delivery).lines queries results operation)).queries = [] :=
      List.filter_eq_nil_iff.mpr fun event listed => by simp [(Delivery.of_mem_lines listed).2]
    rw [logged, Trace.queries_append, nothing, List.append_nil]

/-- As the settings have it, a call is logged when it is made. -/
theorem queries_through (config : Config) (operation : Operation) (delivery : Delivery) :
    (through config operation).made.queries = config.queryLines [operation] ∧
      ((through config operation).answered delivery).queries = [] := by
  unfold through
  split
  · obtain ⟨made, answered⟩ :=
      queries_logged config.logQueries config.logResults operation (direct operation)
    rw [made, answered]
    exact ⟨List.append_nil _, rfl⟩
  · rename_i off
    have unlogged : config.logQueries = false := by
      cases queries : config.logQueries with
      | false => rfl
      | true => simp [queries] at off
    simp only [Config.queryLines, unlogged]
    exact ⟨rfl, rfl⟩

end Call

/-- A call is logged at once, and what follows from the delivery says nothing of what is asked. -/
theorem Progress.queries_ofDelivery (config : Config) (registry : Registry) (resolver : Resolver)
    (operation : Operation) (reading : Reading) (delivery : Delivery) :
    (ofDelivery config registry resolver operation reading delivery).atOnce.queries =
        config.queryLines [operation] ∧
      (ofDelivery config registry resolver operation reading delivery).late.queries = [] := by
  obtain ⟨made, answered⟩ := Call.queries_through config operation delivery
  cases read : (do
      let response ← delivery.answer operation
      reading.read registry resolver.target response) with
  | error error =>
      cases prompt : delivery.isPrompt <;> simp [ofDelivery, read, prompt, made, answered]
  | ok logged =>
      obtain ⟨response, _, done⟩ := Json.exists_ok_of_bind read
      have nothing := Trace.queries_ofEvents (Reading.silent_read done)
      cases prompt : delivery.isPrompt <;>
        simp [ofDelivery, read, prompt, made, answered, nothing]

/-- What a run says of what is asked, taken by itself. -/
theorem Progress.queries_trace (progress : Progress) :
    progress.trace.queries = progress.atOnce.queries ++ progress.late.queries :=
  Trace.queries_append _ _

/-- A request is logged when it goes to the store, before other requests go on. -/
theorem Request.queries_run (config : Config) (registry : Registry) (schema : Schema)
    (store : ScriptedStore) (request : Request) :
    (request.run config registry schema store).1.atOnce.queries =
        config.queryLines (request.call? registry schema).toList ∧
      (request.run config registry schema store).1.late.queries = [] := by
  cases intended : request.intent registry schema with
  | done result =>
      simp only [run, call?, intended, Option.toList_none, Config.queryLines_nil]
      exact ⟨rfl, rfl⟩
  | call resolver operation reading =>
      simp only [run, call?, intended]
      exact Progress.queries_ofDelivery ..

/-- Requests that run together are logged in their order. -/
theorem Request.queries_runAll (config : Config) (registry : Registry) (schema : Schema)
    (store : ScriptedStore) (requests : List Request) :
    (Progress.traceAll (runAll config registry schema store requests).1).queries =
      config.queryLines (requests.filterMap (call? registry schema)) := by
  have parts : ((runAll config registry schema store requests).1.map
        Progress.atOnce).flatMap Trace.queries =
          config.queryLines (requests.filterMap (call? registry schema)) ∧
      ((runAll config registry schema store requests).1.map
        Progress.late).flatMap Trace.queries = [] := by
    induction requests generalizing store with
    | nil => exact ⟨config.queryLines_nil.symm, rfl⟩
    | cons request rest ih =>
        obtain ⟨first, firstLate⟩ := queries_run config registry schema store request
        obtain ⟨others, othersLate⟩ := ih (request.run config registry schema store).2
        simp only [runAll, List.map_cons, List.flatMap_cons, first, firstLate, others, othersLate]
        refine ⟨?_, rfl⟩
        rw [← Config.queryLines_append]
        cases called : request.call? registry schema <;> simp [called]
  rw [Progress.traceAll, Trace.queries_append, Trace.queries_concat, Trace.queries_concat,
    parts.1, parts.2, List.append_nil]

/-- A build is logged when it goes to the store for metadata. -/
theorem queries_buildOver (config : Config) (registry : Registry) (store : ScriptedStore)
    (given : Option Fields) (timeout : Option Nat) :
    (buildOver config registry store given timeout).trace.queries =
      config.queryLines (buildCalls config given) := by
  have built : ∀ metadata, (Trace.ofEvents
      (buildFrom config registry metadata).events).queries = [] := by
    intro metadata
    cases metadata with
    | error error => rfl
    | ok metadata => exact Trace.queries_ofEvents (Compile.silent_build config registry metadata)
  simp only [buildOver, Trace.queries_append, built, List.append_nil]
  cases given with
  | some metadata => exact config.queryLines_nil.symm
  | none =>
      obtain ⟨made, answered⟩ := Call.queries_through config
        (.getMappings config.includePattern)
        (store.call (config.hasDeadline timeout) (.getMappings config.includePattern))
      simp [metadataFor, fetchMappings, buildCalls, made, answered]

namespace Session

/-- With queries logged, a step leaves in the log the operations by which it goes to the store,
in their order; else it leaves none there. -/
theorem queries_list_the_calls (session : Session) (command : Command) :
    (session.step command).trace.queries =
      session.config.queryLines (session.calls command) := by
  cases command with
  | resolve request =>
      obtain ⟨atOnce, late⟩ := Request.queries_run session.config session.registry session.schema
        session.store request
      have whole := Progress.queries_trace
        (request.run session.config session.registry session.schema session.store).1
      rw [atOnce, late, List.append_nil] at whole
      exact whole
  | execute requests => exact Request.queries_runAll ..
  | rebuild timeout => exact queries_buildOver ..
  | register name =>
      exact (Trace.queries_ofEvents (session.registry.silent_registrationEvents name)).trans
        session.config.queryLines_nil.symm
  | _ => exact session.config.queryLines_nil.symm

end Session

end DocQuery
