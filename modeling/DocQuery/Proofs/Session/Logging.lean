import DocQuery.Proofs.Session.LoggedCalls
import DocQuery.Proofs.Session.Opened

/-!
# Logging changes nothing else

Settings say whether calls to the store and its answers are logged, and say so to the log
only. Two runs whose settings differ in this alone are compared step by step
(`Session.step_logging`): every step yields the same in both, goes to the store with the same
calls, and leaves behind the same but for the log lines about calls. Where a call is made this is
`Call.logged_alike`; all else only hands it on.
-/

namespace DocQuery

/-- The settings with calls and answers logged or not. -/
def Config.logging (config : Config) (queries results : Bool) : Config :=
  { config with logQueries := queries, logResults := results }

/-- The session with calls and answers logged or not. -/
def Session.logging (session : Session) (queries results : Bool) : Session :=
  { session with config := session.config.logging queries results }

namespace Trace

/-- The trace without the log lines about calls. -/
def quiet (trace : Trace) : Trace :=
  ⟨trace.exchanges, trace.events.filter fun event => !event.isOfCall⟩

@[simp] theorem quiet_append (first second : Trace) :
    (first ++ second).quiet = first.quiet ++ second.quiet := by
  show Trace.mk _ (List.filter _ (first.events ++ second.events)) = _
  rw [List.filter_append]
  rfl

theorem quiet_concat (traces : List Trace) :
    (concat traces).quiet = concat (traces.map quiet) := by
  induction traces with
  | nil => rfl
  | cons head rest ih =>
      show (head ++ concat rest).quiet = _
      rw [quiet_append, ih]
      rfl

end Trace

namespace Call

/-- Logging changes nothing about a call, whatever way it goes: the caller gets the same of
what the store delivers, and the same is left behind but for the log lines about calls. -/
theorem logged_alike (queries results : Bool) (operation : Operation) (inner : Call) :
    (inner.logged queries results operation).passes = inner.passes ∧
      (inner.logged queries results operation).made.quiet = inner.made.quiet ∧
      ∀ delivery, ((inner.logged queries results operation).answered delivery).quiet =
        (inner.answered delivery).quiet := by
  refine ⟨rfl, ?_, fun delivery => ?_⟩
  · rw [logged, Trace.quiet_append]
    split <;> rfl
  · have nothing : (Trace.ofEvents
        ((inner.passes delivery).lines queries results operation)).quiet = .empty :=
      congrArg (Trace.mk []) (List.filter_eq_nil_iff.mpr fun event listed => by
        simp [(Delivery.of_mem_lines listed).1])
    rw [logged, Trace.quiet_append, nothing]
    exact Trace.append_empty _

/-- With any settings, a call is alike to one that goes straight to the store. -/
theorem through_alike (config : Config) (operation : Operation) :
    (through config operation).passes = (direct operation).passes ∧
      (through config operation).made.quiet = .empty ∧
      ∀ delivery, ((through config operation).answered delivery).quiet =
        ((direct operation).answered delivery).quiet := by
  unfold through
  split
  · exact logged_alike config.logQueries config.logResults operation (direct operation)
  · exact ⟨rfl, rfl, fun _ => rfl⟩

end Call

namespace Compile

variable (config : Config) (queries results : Bool)

/-- What fields leave in the log does not depend on whether calls are logged. -/
theorem fieldEvents_logging (registry : Registry) (mapping : CollectionMapping) :
    fieldEvents (config.logging queries results) registry mapping =
      fieldEvents config registry mapping := by
  induction mapping generalizing registry with
  | nil => rfl
  | cons head rest ih =>
      simp only [fieldEvents, ih]
      rfl

/-- Nor does what collections leave in the log. -/
theorem compileEvents_logging (registry : Registry) (usable : List (String × CollectionMapping)) :
    compileEvents (config.logging queries results) registry usable =
      compileEvents config registry usable := by
  induction usable generalizing registry with
  | nil => rfl
  | cons head rest ih =>
      simp only [compileEvents, ih, contributionEvents, fieldEvents_logging]
      rfl

/-- A build is the same with calls logged or not. -/
theorem build_logging (registry : Registry) (metadata : Fields) :
    build (config.logging queries results) registry metadata = build config registry metadata := by
  simp only [build, compileEvents_logging]
  rfl

end Compile

/-- A run of a request without the log lines about calls. -/
def Progress.quiet (progress : Progress) : Progress :=
  ⟨progress.result, progress.atOnce.quiet, progress.late.quiet⟩

/-- What a run leaves behind without the log lines is what the run without them leaves behind. -/
theorem Progress.quiet_trace (progress : Progress) :
    progress.trace.quiet = progress.quiet.trace :=
  Trace.quiet_append _ _

/-- What runs of several requests leave behind without the log lines is what the runs without
them leave behind. -/
theorem Progress.quiet_traceAll (runs : List Progress) :
    (traceAll runs).quiet = traceAll (runs.map quiet) := by
  rw [traceAll, Trace.quiet_append, Trace.quiet_concat, Trace.quiet_concat, List.map_map,
    List.map_map, traceAll, List.map_map, List.map_map]
  rfl

section Requests

variable (config : Config) (queries results : Bool) (registry : Registry)

/-- What follows from a delivery is the same with calls logged or not. -/
theorem Progress.quiet_ofDelivery (resolver : Resolver) (operation : Operation)
    (reading : Reading) (delivery : Delivery) :
    (ofDelivery (config.logging queries results) registry resolver operation reading
        delivery).quiet =
      (ofDelivery config registry resolver operation reading delivery).quiet := by
  obtain ⟨_, made, answered⟩ := Call.through_alike config operation
  obtain ⟨_, madeToo, answeredToo⟩ :=
    Call.through_alike (config.logging queries results) operation
  cases prompt : delivery.isPrompt <;>
    simp [ofDelivery, Progress.quiet, prompt, made, answered, madeToo, answeredToo]

variable (schema : Schema) (store : ScriptedStore)

/-- A request runs the same with calls logged or not. -/
theorem Request.run_logging (request : Request) :
    (request.run (config.logging queries results) registry schema store).1.quiet =
        (request.run config registry schema store).1.quiet ∧
      (request.run (config.logging queries results) registry schema store).2 =
        (request.run config registry schema store).2 := by
  cases intended : request.intent registry schema with
  | done result => simp [run, intended]
  | call resolver operation reading =>
      refine ⟨?_, ?_⟩
      · simp only [run, intended, Progress.quiet_ofDelivery]
        rfl
      · simp only [run, intended]

/-- Requests that run together run the same with calls logged or not. -/
theorem Request.runAll_logging (requests : List Request) :
    (runAll (config.logging queries results) registry schema store requests).1.map
          Progress.quiet =
        (runAll config registry schema store requests).1.map Progress.quiet ∧
      (runAll (config.logging queries results) registry schema store requests).2 =
        (runAll config registry schema store requests).2 := by
  induction requests generalizing store with
  | nil => exact ⟨rfl, rfl⟩
  | cons request rest ih =>
      obtain ⟨quieted, passed⟩ :=
        run_logging config queries results registry schema store request
      obtain ⟨othersQuieted, othersPassed⟩ := ih (request.run config registry schema store).2
      simp only [runAll, List.map_cons, quieted, passed, othersQuieted, othersPassed]
      exact ⟨trivial, trivial⟩

end Requests

/-- Two advances agree up to a change of state and up to the log lines about calls. -/
structure Advance.Alike {σ α : Type} (change : σ → σ) (plain logged : Advance σ α) : Prop where
  state : logged.state = change plain.state
  yielded : logged.yielded = plain.yielded
  trace : logged.trace.quiet = plain.trace.quiet

section Builds

variable (config : Config) (queries results : Bool) (registry : Registry) (store : ScriptedStore)
  (given : Option Fields) (timeout : Option Nat)

/-- Metadata is obtained the same with calls logged or not. -/
theorem metadataFor_logging :
    Advance.Alike id (metadataFor config store given timeout)
      (metadataFor (config.logging queries results) store given timeout) := by
  cases given with
  | some metadata => exact ⟨rfl, rfl, rfl⟩
  | none =>
      obtain ⟨_, made, answered⟩ :=
        Call.through_alike config (.getMappings config.includePattern)
      obtain ⟨_, madeToo, answeredToo⟩ := Call.through_alike (config.logging queries results)
        (.getMappings config.includePattern)
      refine ⟨rfl, ?_, ?_⟩
      · simp only [metadataFor, yielded_fetchMappings]
        rfl
      · simp only [metadataFor, fetchMappings, Trace.quiet_append, made, answered]
        rw [show (config.logging queries results).includePattern = config.includePattern from rfl,
          madeToo, answeredToo]
        rfl

/-- A schema is built over a store the same with calls logged or not. -/
theorem buildOver_logging :
    Advance.Alike id (buildOver config registry store given timeout)
      (buildOver (config.logging queries results) registry store given timeout) := by
  obtain ⟨state, yielded, trace⟩ := metadataFor_logging config queries results store given timeout
  have built : buildFrom (config.logging queries results) registry
      (metadataFor (config.logging queries results) store given timeout).yielded =
        buildFrom config registry (metadataFor config store given timeout).yielded := by
    rw [yielded]
    unfold buildFrom
    split
    · exact Compile.build_logging ..
    · rfl
  refine ⟨state, built, ?_⟩
  simp only [buildOver, Trace.quiet_append, built, trace]

end Builds

namespace Session

variable (session : Session) (queries results : Bool)

/-- A rebuild is the same with calls logged or not. -/
theorem rebuild_logging (timeout : Option Nat) :
    Advance.Alike (logging · queries results) (session.rebuild timeout)
      ((session.logging queries results).rebuild timeout) := by
  obtain ⟨state, yielded, trace⟩ := buildOver_logging session.config queries results
    session.registry session.store none timeout
  refine ⟨?_, ?_, trace⟩
  · simp only [rebuild, logging, state, yielded, id]
  · simp only [rebuild, logging, yielded]

/-- A step is the same with calls logged or not. -/
theorem step_logging (command : Command) :
    Advance.Alike (logging · queries results) (session.step command)
      ((session.logging queries results).step command) := by
  cases command with
  | resolve request =>
      obtain ⟨quieted, passed⟩ := Request.run_logging session.config queries results
        session.registry session.schema session.store request
      have traces := congrArg Progress.trace quieted
      have yields := congrArg Progress.result quieted
      rw [← Progress.quiet_trace, ← Progress.quiet_trace] at traces
      exact ⟨congrArg (fun store => { session.logging queries results with store }) passed,
        congrArg Outcome.value yields, traces⟩
  | execute requests =>
      obtain ⟨quieted, passed⟩ := Request.runAll_logging session.config queries results
        session.registry session.schema session.store requests
      have traces := congrArg Progress.traceAll quieted
      have yields := congrArg (List.map Progress.result) quieted
      rw [← Progress.quiet_traceAll, ← Progress.quiet_traceAll] at traces
      rw [List.map_map, List.map_map] at yields
      exact ⟨congrArg (fun store => { session.logging queries results with store }) passed,
        congrArg Outcome.values yields, traces⟩
  | rebuild timeout => exact session.rebuild_logging queries results timeout
  | _ => exact ⟨rfl, rfl, rfl⟩

/-- A run ends the same with calls logged or not. -/
theorem run_logging (commands : List Command) :
    (session.logging queries results).run commands =
      (session.run commands).logging queries results := by
  induction commands generalizing session with
  | nil => rfl
  | cons command rest ih =>
      show run ((session.logging queries results).step command).state rest = _
      rw [(session.step_logging queries results command).state, ih]
      rfl

end Session

/-- What a step shows of itself: what it yields, the operations that reach the store, the
completed ones among them with their answers, and the log lines but those about calls. -/
structure Report where
  yielded : Outcome
  calls : List Operation
  exchanges : List Exchange
  events : List Event

namespace Session

/-- What a command shows of itself. -/
def report (session : Session) (command : Command) : Report where
  yielded := (session.step command).yielded
  calls := session.calls command
  exchanges := (session.step command).trace.quiet.exchanges
  events := (session.step command).trace.quiet.events

/-- What each of several commands shows of itself, one after another. -/
def reports (session : Session) : List Command → List Report
  | [] => []
  | command :: rest => session.report command :: (session.step command).state.reports rest

/-- The log lines of a run that say what is asked of the store. -/
def queryLog (session : Session) : List Command → List Event
  | [] => []
  | command :: rest =>
    (session.step command).trace.queries ++ (session.step command).state.queryLog rest

/-- With queries logged, the log of a run lists the operations by which it goes to the store, in
their order; else it lists none. -/
theorem queryLog_eq (session : Session) (commands : List Command) :
    session.queryLog commands =
      session.config.queryLines ((session.reports commands).flatMap Report.calls) := by
  induction commands generalizing session with
  | nil => exact session.config.queryLines_nil.symm
  | cons command rest ih =>
      rw [queryLog, queries_list_the_calls, ih, config_of_step, reports, List.flatMap_cons,
        Config.queryLines_append]
      rfl

variable (session : Session) (queries results : Bool)

/-- A command goes to the store with the same operations with calls logged or not. -/
theorem calls_logging (command : Command) :
    (session.logging queries results).calls command = session.calls command := by
  cases command <;> rfl

/-- A run shows the same with calls logged or not. -/
theorem reports_logging (commands : List Command) :
    (session.logging queries results).reports commands = session.reports commands := by
  induction commands generalizing session with
  | nil => rfl
  | cons command rest ih =>
      obtain ⟨state, yielded, trace⟩ := session.step_logging queries results command
      rw [reports, reports, state, ih, report, report, yielded, calls_logging, trace]

/-- A session is opened the same with calls logged or not. -/
theorem start_logging (config : Config) (registry : Registry) (store : ScriptedStore)
    (given : Option Fields) (timeout : Option Nat) :
    (start (config.logging queries results) registry store given timeout).1 =
        (start config registry store given timeout).1.map (logging · queries results) ∧
      (start (config.logging queries results) registry store given timeout).2.quiet =
        (start config registry store given timeout).2.quiet := by
  obtain ⟨state, yielded, trace⟩ :=
    buildOver_logging config queries results registry store given timeout
  refine ⟨?_, trace⟩
  simp only [start, yielded, state, id]
  cases (buildOver config registry store given timeout).yielded.schema <;> rfl

/-- Logging is transparent. With calls and answers logged or not, a session is opened over the
same calls to the store, or fails to be with the same error, and has the same names and schemas;
and whatever commands follow, all show the same and leave the same names and schemas. What the
log says is asked of the store are the calls of the run without logging. -/
theorem logging_is_transparent (config : Config) (registry : Registry) (store : ScriptedStore)
    (given : Option Fields) (timeout : Option Nat) :
    let plain := start config registry store given timeout
    let logged := start (config.logging queries results) registry store given timeout
    buildCalls (config.logging queries results) given = buildCalls config given ∧
    logged.2.quiet = plain.2.quiet ∧
    logged.2.queries = (config.logging queries results).queryLines (buildCalls config given) ∧
    (∀ error, logged.1 = .error error ↔ plain.1 = .error error) ∧
    ∀ session, plain.1 = .ok session → ∃ twin, logged.1 = .ok twin ∧
      twin.registry = session.registry ∧ twin.schemas = session.schemas ∧
      ∀ commands, twin.reports commands = session.reports commands ∧
        (twin.run commands).registry = (session.run commands).registry ∧
        (twin.run commands).schemas = (session.run commands).schemas ∧
        twin.queryLog commands = (config.logging queries results).queryLines
          ((session.reports commands).flatMap Report.calls) := by
  intro plain logged
  obtain ⟨opened, traces⟩ := start_logging queries results config registry store given timeout
  have sameCalls : buildCalls (config.logging queries results) given =
      buildCalls config given := by
    cases given <;> rfl
  refine ⟨sameCalls, traces, ?asked, ?failed, ?succeeded⟩
  case asked =>
    rw [← sameCalls]
    exact queries_buildOver ..
  case failed =>
    intro error
    show logged.1 = _ ↔ _
    rw [show logged.1 = _ from opened]
    cases plain.1 with
    | error failure => rfl
    | ok session => exact ⟨nofun, nofun⟩
  case succeeded =>
    intro session started
    have configured : session.config = config := config_of_start started
    refine ⟨session.logging queries results, ?_, rfl, rfl, fun commands => ?_⟩
    · rw [show logged.1 = _ from opened, show (start config registry store given timeout).1 = _
        from started]
      rfl
    · have sameReports := session.reports_logging queries results commands
      refine ⟨sameReports, ?_, ?_, ?_⟩
      · rw [run_logging]
        rfl
      · rw [run_logging]
        rfl
      · rw [queryLog_eq, sameReports, logging, configured]

/-- A session over the sample readings shows the same with everything logged, when the store
fails a call, when it stalls another, and when the schema is built anew. -/
theorem failures_show_the_same_when_logged :
    let listed : Request :=
      ⟨"es_index", .ofList [("size", .ofNat 2)], [.leaf "id", .leaf "plus_X_Temperature"], some 5⟩
    let single : Request := ⟨"es_index_by_id", .ofList [("id", .string "a")], [.leaf "id"], none⟩
    let commands : List Command :=
      [.script [.fails (.of (.queryFailed 503 none none)), .stalls], .execute [single, listed],
        .rebuild none]
    ∃ session twin, (start {} .empty ⟨.readings, []⟩ none none).1 = .ok session ∧
      (start (Config.logging {} true true) .empty ⟨.readings, []⟩ none none).1 = .ok twin ∧
      twin.reports commands = session.reports commands ∧
      twin.queryLog commands = (Config.logging {} true true).queryLines
        ((session.reports commands).flatMap Report.calls) := by
  intro listed single commands
  obtain ⟨description, described, usable⟩ := Memory.exists_description_of_readings
  obtain ⟨session, trace, started⟩ : ∃ session trace,
      start {} .empty ⟨.readings, []⟩ none none = (.ok session, trace) :=
    exists_start described usable
  have opened := congrArg Prod.fst started
  obtain ⟨_, _, _, _, follows⟩ :=
    logging_is_transparent true true {} .empty ⟨.readings, []⟩ none none
  obtain ⟨twin, twinOpened, _, _, same⟩ := follows session opened
  obtain ⟨shown, _, _, listedCalls⟩ := same commands
  exact ⟨session, twin, opened, twinOpened, shown, listedCalls⟩

end Session

end DocQuery
