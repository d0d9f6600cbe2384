import DocQuery.Proofs.Schema.CompletionOrder
import DocQuery.Proofs.Session.FailedBuilds
import DocQuery.Store.Sample

/-!
# Sessions over a store in memory

A store in memory without a script answers every call at once from what it holds.
So a handle opened over it has the schema of its metadata, and the value of a root
field is the plan of the field carried out against the store.
-/

namespace DocQuery

variable {config : Config} {registry : Registry} {memory : Memory} {given : Option Fields}
  {timeout : Option Nat} {session : Session} {trace : Trace}

/-- A store in memory hands out the metadata that it holds, if none is at hand. -/
theorem metadataFor_memory (config : Config) (memory : Memory) (given : Option Fields)
    (timeout : Option Nat) :
    (metadataFor config ⟨memory, []⟩ given timeout).yielded =
        .ok (given.getD (memory.getMappings config.includePattern)) ∧
      (metadataFor config ⟨memory, []⟩ given timeout).state = ⟨memory, []⟩ := by
  cases given with
  | some metadata => exact ⟨rfl, rfl⟩
  | none => exact ⟨yielded_fetchMappings config ⟨memory, []⟩ timeout, rfl⟩

/-- What a plan comes to over a store in memory. -/
def Plan.carryOut (registry : Registry) (memory : Memory) (target : Target) :
    Plan → Except Error Json
  | .answered value => .ok value
  | .asks operation reading =>
    memory.answer operation >>= fun response =>
      (reading.read registry target response).map Logged.value

/-- What a root field comes to over a store in memory. -/
def Resolver.answer (resolver : Resolver) (registry : Registry) (memory : Memory)
    (arguments : Fields) (selection : SelectionSet) : Except Error Json :=
  (resolver.plan registry arguments selection >>=
    Plan.carryOut registry memory resolver.target).mapError resolver.failure

namespace Session

/-- A session with the schema and the names of some metadata. -/
structure Built (config : Config) (registry : Registry) (metadata : Fields)
    (session : Session) : Prop where
  assembled : Compile.assemble (Compile.contributions config metadata) = .ok session.schema
  registered : session.registry =
    registry.registerAll (Compile.registrations (Compile.contributions config metadata))

/-- Such a session over a store in memory without a script. -/
structure Opened (config : Config) (registry : Registry) (memory : Memory) (metadata : Fields)
    (session : Session) : Prop extends Built config registry metadata session where
  unscripted : session.store = ⟨memory, []⟩

/-- The schema and the names of such a session are those of a build in the order of the
metadata. -/
theorem Built.mayBuild {metadata : Fields} (built : Built config registry metadata session) :
    Compile.MayBuild config registry metadata
      (Compile.registrations (Compile.contributions config metadata)) (.ok session.schema)
      session.registry := by
  rw [← built.assembled, built.registered]
  exact Compile.mayBuild_build config registry metadata

/-- A session is opened with the given settings. -/
theorem config_of_start {store : ScriptedStore}
    (started : (start config registry store given timeout).1 = .ok session) :
    session.config = config := by
  simp only [start] at started
  cases built : (buildOver config registry store given timeout).yielded.schema with
  | error error => simp [built, Except.map] at started
  | ok schema =>
      simp only [built, Except.map, Except.ok.injEq] at started
      rw [← started]

/-- Opening a session builds its schema and its names from the metadata. -/
theorem built_of_start {store : ScriptedStore} {metadata : Fields}
    (obtained : (metadataFor config store given timeout).yielded = .ok metadata)
    (started : start config registry store given timeout = (.ok session, trace)) :
    Built config registry metadata session ∧
      session.store = (metadataFor config store given timeout).state := by
  have opened := congrArg Prod.fst started
  simp only [start, buildOver, obtained, buildFrom, Compile.build] at opened
  cases assembled : Compile.assemble (Compile.contributions config metadata) with
  | error error => simp [assembled, Except.map] at opened
  | ok schema =>
      simp only [assembled, Except.map, Except.ok.injEq] at opened
      subst opened
      exact ⟨⟨assembled, rfl⟩, rfl⟩

/-- Opening a session over a store in memory uses the metadata at hand, or else that of
the store. -/
theorem opened_of_start
    (started : start config registry ⟨memory, []⟩ given timeout = (.ok session, trace)) :
    Opened config registry memory (given.getD (memory.getMappings config.includePattern))
      session := by
  obtain ⟨obtained, kept⟩ := metadataFor_memory config memory given timeout
  obtain ⟨built, store⟩ := built_of_start obtained started
  exact { built with unscripted := store.trans kept }

/-- The store may change without the session noticing. -/
theorem Opened.changeMemory {metadata : Fields}
    (opened : Opened config registry memory metadata session) (change : Memory → Memory) :
    Opened config registry (change memory) metadata (session.changeMemory change) where
  assembled := opened.assembled
  registered := opened.registered
  unscripted := by rw [Session.changeMemory, opened.unscripted]

/-- Over a store in memory a build has a schema if some metadata lists fields. -/
theorem exists_schema_of_memory {name : String} {description : Json}
    {mapping : CollectionMapping}
    (described :
      (given.getD (memory.getMappings config.includePattern)).find? name = some description)
    (usable : CollectionMapping.ofMetadata name description = .ok mapping) :
    ∃ schema, (buildOver config registry ⟨memory, []⟩ given timeout).yielded.schema =
      .ok schema := by
  rw [buildOver_of_metadata (metadataFor_memory config memory given timeout).1]
  cases built : (Compile.build config registry
      (given.getD (memory.getMappings config.includePattern))).schema with
  | ok schema => exact ⟨schema, rfl⟩
  | error error =>
      have unusable := (Compile.build_eq_error_iff.mp built).2 _
        (OrderedMap.find?_eq_some_iff_mem.mp described)
      rw [CollectionMapping.ofMetadata_eq_ok_iff, unusable] at usable
      cases usable

/-- So a session can be opened over it. -/
theorem exists_start {name : String} {description : Json} {mapping : CollectionMapping}
    (described :
      (given.getD (memory.getMappings config.includePattern)).find? name = some description)
    (usable : CollectionMapping.ofMetadata name description = .ok mapping) :
    ∃ session trace, start config registry ⟨memory, []⟩ given timeout = (.ok session, trace) := by
  obtain ⟨schema, built⟩ : ∃ schema,
      (buildOver config registry ⟨memory, []⟩ given timeout).yielded.schema = .ok schema :=
    exists_schema_of_memory described usable
  simp only [start, built]
  exact ⟨_, _, rfl⟩

/-- Over a store in memory a session resolves a root field by carrying out its plan. -/
theorem step_resolve {request : Request} {resolver : Resolver}
    (unscripted : session.store = ⟨memory, []⟩)
    (found : session.schema.resolver request.field = .ok resolver) :
    (session.step (.resolve request)).yielded =
      .value (resolver.answer session.registry memory request.arguments request.selection) := by
  show Outcome.value (request.run session.config session.registry session.schema
    session.store).1.result = _
  simp only [Request.run, Request.intent, found, unscripted]
  cases planned : resolver.plan session.registry request.arguments request.selection with
  | error error =>
      rw [Resolver.answer, planned]
      rfl
  | ok plan =>
      cases plan with
      | answered value =>
          rw [Resolver.answer, planned]
          rfl
      | asks operation reading =>
          rw [Progress.result_ofDelivery, Resolver.answer, planned]
          show Outcome.value (((memory.answer operation >>=
            reading.read session.registry resolver.target).map Logged.value).mapError
              resolver.failure) = .value ((memory.answer operation >>= fun response =>
            (reading.read session.registry resolver.target response).map
              Logged.value).mapError resolver.failure)
          cases memory.answer operation <;> rfl

end Session

namespace Memory

/-- The fields of the sample readings. -/
def readingsMapping : CollectionMapping :=
  [("@timestamp", .leaf "date"), ("+X Temperature", .leaf "float"), ("count", .leaf "long"),
    ("sensor", .leaf "string"), ("location", .leaf "geo_point")]

/-- The sample store describes its readings. -/
theorem exists_description_of_readings :
    ∃ description, (readings.getMappings "*").find? "es-index" = some description ∧
      CollectionMapping.ofMetadata "es-index" description = .ok readingsMapping :=
  ⟨_, rfl, rfl⟩

end Memory

end DocQuery
