import DocQuery.Request.Plan
import DocQuery.Session.Trace

/-!
# Resolving requests

A request runs in two parts: up to the call, and from the answer of the store to
the value. Requests that run together make their calls in order; an answer that
comes at once is dealt with before the next request makes its call, and late
answers are dealt with at the end. No request depends on the value of another.
-/

namespace DocQuery

/-- The run of one request. -/
structure Progress where
  result : Except Error Json
  /-- What happens before other requests go on. -/
  atOnce : Trace
  /-- What happens after them. -/
  late : Trace

namespace Progress

/-- A run without a call. -/
def ofResult (result : Except Error Json) : Progress := ⟨result, .empty, .empty⟩

/-- What the run leaves behind, taken by itself. -/
def trace (progress : Progress) : Trace := progress.atOnce ++ progress.late

/-- What runs of several requests together leave behind. -/
def traceAll (runs : List Progress) : Trace :=
  .concat (runs.map Progress.atOnce) ++ .concat (runs.map Progress.late)

/-- The run of a request whose call is answered by a delivery. -/
def ofDelivery (config : Config) (registry : Registry) (resolver : Resolver)
    (operation : Operation) (reading : Reading) (delivery : Delivery) : Progress :=
  let call := Call.through config operation
  let passed := call.passes delivery
  let read := do
    let response ← passed.answer operation
    reading.read registry resolver.target response
  let finished := call.answered delivery ++
    match read with
    | .ok logged => .ofEvents logged.events
    | .error _ => .empty
  { result := (read.map Logged.value).mapError resolver.failure
    atOnce := if passed.isPrompt then call.made ++ finished else call.made
    late := if passed.isPrompt then .empty else finished }

/-- What a run comes to is what the delivered answer is read as. -/
theorem result_ofDelivery (config : Config) (registry : Registry) (resolver : Resolver)
    (operation : Operation) (reading : Reading) (delivery : Delivery) :
    (ofDelivery config registry resolver operation reading delivery).result =
      ((delivery.answer operation >>= reading.read registry resolver.target).map
        Logged.value).mapError resolver.failure := by
  simp only [ofDelivery, Call.passes_through]

end Progress

/-- What a request does: it is answered at once, or it makes a call. -/
inductive Intent where
  | done (result : Except Error Json)
  | call (resolver : Resolver) (operation : Operation) (reading : Reading)

namespace Request

/-- What a request does under a schema. -/
def intent (registry : Registry) (schema : Schema) (request : Request) : Intent :=
  match schema.resolver request.field with
  | .error error => .done (.error error)
  | .ok resolver =>
    match resolver.plan registry request.arguments request.selection with
    | .error error => .done (.error (resolver.failure error))
    | .ok (.answered value) => .done (.ok value)
    | .ok (.asks operation reading) => .call resolver operation reading

/-- Runs a request against a store. -/
def run (config : Config) (registry : Registry) (schema : Schema) (store : ScriptedStore)
    (request : Request) : Progress × ScriptedStore :=
  match request.intent registry schema with
  | .done result => (.ofResult result, store)
  | .call resolver operation reading =>
    (.ofDelivery config registry resolver operation reading
      (store.call (config.hasDeadline request.timeout) operation), store.afterCall)

/-- Runs requests together; their calls reach the store in order. -/
def runAll (config : Config) (registry : Registry) (schema : Schema) :
    ScriptedStore → List Request → List Progress × ScriptedStore
  | store, [] => ([], store)
  | store, request :: rest =>
    let (progress, store) := request.run config registry schema store
    let (others, store) := runAll config registry schema store rest
    (progress :: others, store)

end Request

end DocQuery
