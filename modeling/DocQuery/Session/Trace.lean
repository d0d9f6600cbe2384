import DocQuery.Config
import DocQuery.Log
import DocQuery.Json.Printer
import DocQuery.Store.Scripted

/-!
# What a step leaves behind

The calls that the store completed, and the lines in the log, each in order.
Calls may be logged when they are made and when they are answered; a call that is
cut off by its deadline is never answered. `Call.logged` is the logging, around any
other way to the store, and `Call.through` says whether there is any.
-/

namespace DocQuery

/-- A call that the store completed. -/
structure Exchange where
  operation : Operation
  /-- The answer; none for a failure. -/
  response : Option Response

/-- Completed calls and log lines. -/
structure Trace where
  exchanges : List Exchange
  events : List Event

namespace Trace

/-- Nothing happened. -/
def empty : Trace := ⟨[], []⟩

/-- One trace after another. -/
def append (first second : Trace) : Trace :=
  ⟨first.exchanges ++ second.exchanges, first.events ++ second.events⟩

instance : Append Trace := ⟨append⟩

@[simp] theorem append_empty (trace : Trace) : trace ++ empty = trace := by
  show Trace.mk (trace.exchanges ++ []) (trace.events ++ []) = trace
  rw [List.append_nil, List.append_nil]

@[simp] theorem exchanges_append (first second : Trace) :
    (first ++ second).exchanges = first.exchanges ++ second.exchanges := rfl

/-- Log lines alone. -/
def ofEvents (events : List Event) : Trace := ⟨[], events⟩

/-- Traces one after another. -/
def concat (traces : List Trace) : Trace := traces.foldr append empty

end Trace

/-- Whether a call has a deadline: its own, or else the configured one. -/
def Config.hasDeadline (config : Config) (timeout : Option Nat) : Bool :=
  timeout.isSome || config.requestTimeout.isSome

namespace Delivery

/-- The answer that the caller goes on with. -/
def answer (operation : Operation) : Delivery → Except Error Response
  | .prompt answer => answer
  | .late answer => answer
  | .cutOff => .error (.of (.deadlineExceeded operation.description))

/-- Whether the caller goes on before other callers are served. -/
def isPrompt : Delivery → Bool
  | .late _ => false
  | _ => true

/-- The call that the store completed; none if it is cut off. -/
def exchanges (operation : Operation) : Delivery → List Exchange
  | .prompt answer => [⟨operation, answer.toOption⟩]
  | .late answer => [⟨operation, answer.toOption⟩]
  | .cutOff => []

/-- The log lines about an answer. Failures are logged if anything is. -/
def lines (queries results : Bool) (operation : Operation) : Delivery → List Event
  | .prompt answer => answerLines answer
  | .late answer => answerLines answer
  | .cutOff => []
where
  /-- The log lines about what the store answered. -/
  answerLines : Except Error Response → List Event
    | .ok response =>
      if results then
        [.storeResult operation.name operation.target response.toJson.compact]
      else []
    | .error error =>
      if results || queries then [.storeFailed operation.name operation.target error] else []

end Delivery

/-- A call on its way to the store and back. -/
structure Call where
  /-- What making the call leaves behind. -/
  made : Trace
  /-- What the caller gets of what the store delivers. -/
  passes : Delivery → Delivery
  /-- What the delivery leaves behind. -/
  answered : Delivery → Trace

namespace Call

/-- A call that goes straight to the store. -/
def direct (operation : Operation) : Call where
  made := .empty
  passes delivery := delivery
  answered delivery := ⟨delivery.exchanges operation, []⟩

/-- A call that is logged on its way: the query before it goes on, and the answer when it
comes back. -/
def logged (queries results : Bool) (operation : Operation) (inner : Call) : Call where
  made :=
    .ofEvents (if queries then
      [.storeQuery operation.name operation.target operation.toJson.compact] else []) ++ inner.made
  passes := inner.passes
  answered delivery :=
    inner.answered delivery ++
      .ofEvents ((inner.passes delivery).lines queries results operation)

/-- A call as the settings have it: logged on its way if any logging is on. -/
def through (config : Config) (operation : Operation) : Call :=
  if config.logQueries || config.logResults then
    (direct operation).logged config.logQueries config.logResults operation
  else direct operation

/-- With the settings, a caller gets what the store delivers. -/
@[simp] theorem passes_through (config : Config) (operation : Operation) (delivery : Delivery) :
    (through config operation).passes delivery = delivery := by
  unfold through
  split <;> rfl

/-- With the settings, the store completes what it delivers. -/
theorem exchanges_through (config : Config) (operation : Operation) (delivery : Delivery) :
    (through config operation).made.exchanges = [] ∧
      ((through config operation).answered delivery).exchanges =
        delivery.exchanges operation := by
  unfold through
  split
  · exact ⟨rfl, List.append_nil _⟩
  · exact ⟨rfl, rfl⟩

end Call

end DocQuery
