import Mathlib.Data.List.OfFn
import DocQuery.Session.Basic

/-!
# Requests side by side

Over a store in memory a request leaves the whole session as it found it. So requests
that run together each come to what they come to alone, in whatever order they stand and
whether or not others of them fail (`Session.siblings_resolve_independently`).
-/

namespace DocQuery

namespace Request

variable {config : Config} {registry : Registry} {schema : Schema} {memory : Memory}

/-- Without a script the store is after a request as it was before. -/
theorem store_of_run (request : Request) :
    (request.run config registry schema ⟨memory, []⟩).2 = ⟨memory, []⟩ := by
  rw [run]
  cases request.intent registry schema with
  | done result => rfl
  | call resolver operation reading => rfl

/-- Without a script each of several requests meets the store that the first one meets. -/
theorem runAll_eq_map (requests : List Request) :
    runAll config registry schema ⟨memory, []⟩ requests =
      (requests.map fun request => (request.run config registry schema ⟨memory, []⟩).1,
        ⟨memory, []⟩) := by
  induction requests with
  | nil => rfl
  | cons request rest ih =>
      let first := request.run config registry schema ⟨memory, []⟩
      show (first.1 :: (runAll config registry schema first.2 rest).1,
        (runAll config registry schema first.2 rest).2) = _
      have kept : first.2 = ⟨memory, []⟩ := store_of_run request
      rw [kept, ih, List.map_cons]

end Request

/-- The command resolves one or more requests. -/
inductive Command.Requests : Command → Prop where
  | resolve (request : Request) : Requests (.resolve request)
  | execute (requests : List Request) : Requests (.execute requests)

namespace Session

/-- What a request comes to by itself. -/
def resultOf (session : Session) (request : Request) : Except Error Json :=
  (request.run session.config session.registry session.schema session.store).1.result

variable {session : Session} {memory : Memory}

/-- Over a store in memory several requests come to what each comes to by itself. -/
theorem step_execute (unscripted : session.store = ⟨memory, []⟩) (requests : List Request) :
    (session.step (.execute requests)).yielded = .values (requests.map session.resultOf) := by
  show Outcome.values ((Request.runAll session.config session.registry session.schema
    session.store requests).1.map Progress.result) = _
  rw [unscripted, Request.runAll_eq_map, List.map_map, ← unscripted]
  rfl

/-- Over a store in memory requests leave the session as it is. -/
theorem state_of_requests (unscripted : session.store = ⟨memory, []⟩) {command : Command}
    (requests : command.Requests) : (session.step command).state = session := by
  cases requests with
  | resolve request =>
      show { session with
        store := (request.run session.config session.registry session.schema session.store).2 } =
          session
      rw [unscripted, Request.store_of_run, ← unscripted]
  | execute requests =>
      show { session with
        store := (Request.runAll session.config session.registry session.schema session.store
          requests).2 } = session
      rw [unscripted, Request.runAll_eq_map, ← unscripted]

/-- Over a store in memory no run of requests leaves a trace in the session. -/
theorem run_of_requests (unscripted : session.store = ⟨memory, []⟩) {commands : List Command}
    (requests : ∀ command ∈ commands, command.Requests) : session.run commands = session := by
  induction commands with
  | nil => rfl
  | cons command rest ih =>
      have kept := state_of_requests unscripted (requests command List.mem_cons_self)
      show (session.step command).state.run rest = session
      rw [kept]
      exact ih fun other member => requests other (List.mem_cons_of_mem _ member)

/-- Requests that run together over a store in memory yield one result each, in their
order: what the request yields when it is resolved alone, whatever its siblings are. In
another order the results stand in that order. And no run of requests changes the session:
not its registry, not the schema of a handle, and not what the store holds. -/
theorem siblings_resolve_independently (session : Session) (memory : Memory)
    (requests : List Request) :
    let inMemory : Session := { session with store := ⟨memory, []⟩ }
    (∃ results : Fin requests.length → Except Error Json,
      (inMemory.step (.execute requests)).yielded = .values (List.ofFn results) ∧
      (∀ i, (inMemory.step (.resolve (requests.get i))).yielded = .value (results i)) ∧
      ∀ order : Equiv.Perm (Fin requests.length),
        (inMemory.step (.execute (List.ofFn (requests.get ∘ order)))).yielded =
          .values (List.ofFn (results ∘ order))) ∧
    ∀ commands : List Command, (∀ command ∈ commands, command.Requests) →
      inMemory.run commands = inMemory := by
  intro inMemory
  have unscripted : inMemory.store = ⟨memory, []⟩ := rfl
  refine ⟨⟨inMemory.resultOf ∘ requests.get, ?together, ?alone, ?permuted⟩, ?unchanged⟩
  case together =>
    rw [step_execute unscripted, ← List.map_ofFn, List.ofFn_get]
  case alone =>
    intro i
    rfl
  case permuted =>
    intro order
    rw [step_execute unscripted, List.map_ofFn, Function.comp_assoc]
  case unchanged =>
    intro commands requests
    exact run_of_requests unscripted requests

end Session

end DocQuery
