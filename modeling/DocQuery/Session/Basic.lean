import DocQuery.Compile.Assembly
import DocQuery.Session.Resolve

/-!
# Sessions

A session has a store, a registry of names, and handles. Each handle has the
schema of its last successful build; all share the registry and the store. A
failed build changes neither the schema nor the registry.

A session advances by commands. What a command yields is its outcome, together
with the trace that it leaves.
-/

namespace DocQuery

/-- A store, the names, and handles that query the store. -/
structure Session where
  config : Config
  registry : Registry
  store : ScriptedStore
  /-- The schema of every handle. -/
  schemas : List Schema
  /-- The handle that commands go to. -/
  current : Nat

/-- What a command yields. -/
inductive Outcome where
  /-- Nothing but success or failure. -/
  | done (result : Except Error Unit)
  /-- The value of a root field. -/
  | value (result : Except Error Json)
  /-- The values of root fields. -/
  | values (results : List (Except Error Json))
  /-- The number of a new handle. -/
  | handle (index : Nat)
  /-- An identifier. -/
  | identifier (identifier : String)

/-- What can be done in a session. -/
inductive Command where
  | resolve (request : Request)
  /-- Resolves requests together. -/
  | execute (requests : List Request)
  /-- Builds the schema of the current handle anew. -/
  | rebuild (timeout : Option Nat)
  /-- Makes a handle like the current one. -/
  | clone
  /-- Makes a handle the current one. -/
  | use (handle : Nat)
  | createCollection (name : String) (metadata : Json)
  | insert (collection id : String) (source : Fields)
  /-- Lays down further replies of the store. -/
  | script (replies : List Reply)
  | register (name : String)

/-- A new state with what was yielded and what was left behind. -/
structure Advance (σ α : Type) where
  state : σ
  yielded : α
  trace : Trace

/-- Metadata that a build starts from, and the store afterwards. -/
def fetchMappings (config : Config) (store : ScriptedStore) (timeout : Option Nat) :
    Advance ScriptedStore (Except Error Fields) :=
  let operation := Operation.getMappings config.includePattern
  let call := Call.through config operation
  let delivery := store.call (config.hasDeadline timeout) operation
  { state := store.afterCall
    yielded := do (← (call.passes delivery).answer operation).asMappings
    trace := call.made ++ call.answered delivery }

/-- Metadata is what the delivered answer is read as. -/
theorem yielded_fetchMappings (config : Config) (store : ScriptedStore) (timeout : Option Nat) :
    (fetchMappings config store timeout).yielded =
      (store.call (config.hasDeadline timeout) (.getMappings config.includePattern)).answer
        (.getMappings config.includePattern) >>= Response.asMappings := by
  simp only [fetchMappings, Call.passes_through]

/-- The metadata that a build starts from: what is at hand, or else the answer of the store. -/
def metadataFor (config : Config) (store : ScriptedStore) (given : Option Fields)
    (timeout : Option Nat) : Advance ScriptedStore (Except Error Fields) :=
  match given with
  | some metadata => ⟨store, .ok metadata, .empty⟩
  | none => fetchMappings config store timeout

/-- Builds a schema from metadata, or leaves the registry as it is for want of metadata. -/
def buildFrom (config : Config) (registry : Registry) (metadata : Except Error Fields) :
    Compile.Build :=
  match metadata with
  | .ok metadata => Compile.build config registry metadata
  | .error error => ⟨.error error, registry, []⟩

/-- Builds a schema over a store. What the registry holds afterwards is yielded
with or without a schema, since other handles may share the registry. -/
def buildOver (config : Config) (registry : Registry) (store : ScriptedStore)
    (given : Option Fields) (timeout : Option Nat) : Advance ScriptedStore Compile.Build :=
  let fetched := metadataFor config store given timeout
  let built := buildFrom config registry fetched.yielded
  ⟨fetched.state, built, fetched.trace ++ .ofEvents built.events⟩

namespace Session

/-- Opens a session with one handle. The metadata is asked of the store unless it
is at hand. -/
def start (config : Config) (registry : Registry) (store : ScriptedStore)
    (given : Option Fields) (timeout : Option Nat) : Except Error Session × Trace :=
  let built := buildOver config registry store given timeout
  (built.yielded.schema.map fun schema =>
      { config, registry := built.yielded.registry, store := built.state, schemas := [schema]
        current := 0 },
    built.trace)

/-- The schema of the current handle. -/
def schema? (session : Session) : Option Schema := session.schemas[session.current]?

/-- The schema of the current handle; without one, an empty schema. -/
def schema (session : Session) : Schema :=
  session.schema?.getD ⟨.of Schema.rootName, .empty⟩

/-- Changes what the store holds. -/
def changeMemory (session : Session) (change : Memory → Memory) : Session :=
  { session with store := { session.store with memory := change session.store.memory } }

/-- Builds the schema of the current handle anew. -/
def rebuild (session : Session) (timeout : Option Nat) : Advance Session Outcome :=
  let built := buildOver session.config session.registry session.store none timeout
  { state :=
      { session with
        registry := built.yielded.registry
        store := built.state
        schemas :=
          match built.yielded.schema with
          | .ok schema => session.schemas.set session.current schema
          | .error _ => session.schemas }
    yielded := .done (built.yielded.schema.map fun _ => ())
    trace := built.trace }

/-- Carries out a command. -/
def step (session : Session) : Command → Advance Session Outcome
  | .resolve request =>
    let (progress, store) := request.run session.config session.registry session.schema session.store
    ⟨{ session with store }, .value progress.result, progress.trace⟩
  | .execute requests =>
    let (runs, store) :=
      Request.runAll session.config session.registry session.schema session.store requests
    ⟨{ session with store }, .values (runs.map Progress.result), Progress.traceAll runs⟩
  | .rebuild timeout => session.rebuild timeout
  | .clone =>
    ⟨{ session with schemas := session.schemas ++ [session.schema] },
      .handle session.schemas.length, .empty⟩
  | .use handle => ⟨{ session with current := handle }, .done (.ok ()), .empty⟩
  | .createCollection name metadata =>
    ⟨session.changeMemory (·.createCollection name metadata), .done (.ok ()), .empty⟩
  | .insert collection id source =>
    ⟨session.changeMemory (·.insert collection id source), .done (.ok ()), .empty⟩
  | .script replies =>
    ⟨{ session with
        store := { session.store with replies := session.store.replies ++ replies } },
      .done (.ok ()), .empty⟩
  | .register name =>
    ⟨{ session with registry := session.registry.register name },
      .identifier (Names.normalize name),
      .ofEvents (session.registry.registrationEvents name)⟩

/-- A command leaves the settings as they are. -/
theorem config_of_step (session : Session) (command : Command) :
    (session.step command).state.config = session.config := by
  cases command <;> rfl

/-- Carries out commands one after another. -/
def run (session : Session) (commands : List Command) : Session :=
  commands.foldl (fun session command => (session.step command).state) session

end Session

end DocQuery
