import DocQuery.Proofs.Schema.Assembly
import DocQuery.Session.Basic

/-!
# Builds that fail

A build can fail because the store does not answer, answers too late or answers
something else, or because no metadata lists fields. `failed_build_changes_nothing`
says that none of these leaves a trace in the registry or in a schema, and when
the last of them happens.
-/

namespace DocQuery

variable {config : Config} {registry : Registry} {store : ScriptedStore}
  {given : Option Fields} {timeout : Option Nat} {error : Error}

/-- With metadata a build over a store is the build from that metadata. -/
theorem buildOver_of_metadata {metadata : Fields}
    (obtained : (metadataFor config store given timeout).yielded = .ok metadata) :
    (buildOver config registry store given timeout).yielded =
      Compile.build config registry metadata := by
  simp only [buildOver, obtained, buildFrom]

/-- A build that fails has registered no name, whether or not it had metadata. -/
theorem registry_of_buildOver_error
    (failed : (buildOver config registry store given timeout).yielded.schema = .error error) :
    (buildOver config registry store given timeout).yielded.registry = registry := by
  cases obtained : (metadataFor config store given timeout).yielded with
  | error reason => simp only [buildOver, obtained, buildFrom]
  | ok metadata =>
      rw [buildOver_of_metadata obtained] at failed ⊢
      exact Compile.registry_of_build_error failed

namespace Session

/-- Opening a session fails exactly if the build does. -/
theorem start_eq_error_iff :
    (start config registry store given timeout).1 = .error error ↔
      (buildOver config registry store given timeout).yielded.schema = .error error := by
  simp only [start]
  cases (buildOver config registry store given timeout).yielded.schema <;> simp [Except.map]

/-- Rebuilding fails exactly if the build does. -/
theorem rebuild_eq_error_iff {session : Session} :
    (session.rebuild timeout).yielded = .done (.error error) ↔
      (buildOver session.config session.registry session.store none timeout).yielded.schema =
        .error error := by
  simp only [rebuild, Outcome.done.injEq]
  cases (buildOver session.config session.registry session.store none timeout).yielded.schema <;>
    simp [Except.map]

/-- A rebuild or a build that fails leaves the registry and the schema of every
handle as they were; of the session only the script of the store has moved on.
Given metadata it fails exactly if no entry lists fields, and says so. -/
theorem failed_build_changes_nothing (session : Session) (config : Config) (registry : Registry)
    (store : ScriptedStore) (given : Option Fields) (timeout : Option Nat) (error : Error) :
    ((session.step (.rebuild timeout)).yielded = .done (.error error) →
      (session.step (.rebuild timeout)).state =
        { session with store := session.store.afterCall }) ∧
    (∀ metadata, (fetchMappings session.config session.store timeout).yielded = .ok metadata →
      ((session.step (.rebuild timeout)).yielded = .done (.error error) ↔
        error = .of .noValidMappings ∧
          ∀ entry ∈ metadata.entries, CollectionMapping.properties? entry.2 = none)) ∧
    ((start config registry store given timeout).1 = .error error →
      (buildOver config registry store given timeout).yielded.registry = registry) ∧
    (∀ metadata, (metadataFor config store given timeout).yielded = .ok metadata →
      ((start config registry store given timeout).1 = .error error ↔
        error = .of .noValidMappings ∧
          ∀ entry ∈ metadata.entries, CollectionMapping.properties? entry.2 = none)) := by
  refine ⟨?rebuildKeeps, ?rebuildFails, ?startKeeps, ?startFails⟩
  case rebuildKeeps =>
    intro failed
    have unbuilt := rebuild_eq_error_iff.mp failed
    have kept := registry_of_buildOver_error unbuilt
    show (session.rebuild timeout).state = _
    simp only [rebuild, unbuilt, kept]
    rfl
  case rebuildFails =>
    intro metadata obtained
    have asked : (metadataFor session.config session.store none timeout).yielded =
        .ok metadata := obtained
    show (session.rebuild timeout).yielded = _ ↔ _
    rw [rebuild_eq_error_iff, buildOver_of_metadata asked, Compile.build_eq_error_iff]
  case startKeeps =>
    intro failed
    exact registry_of_buildOver_error (start_eq_error_iff.mp failed)
  case startFails =>
    intro metadata obtained
    rw [start_eq_error_iff, buildOver_of_metadata obtained, Compile.build_eq_error_iff]

/-- The second of two handles is rebuilt, and a further one is opened on the same
registry, from metadata that lists no fields. -/
theorem failed_build_of_metadata_without_fields :
    let session : Session :=
      { config := {}
        registry := Registry.empty.registerAll ["orders", "unit price"]
        store := ⟨.empty,
          [.answers (.mappings (.ofList [("orders", .object [("mappings", .null)])]))]⟩
        schemas := [⟨.of Schema.rootName, .empty⟩, ⟨.of "Other", .empty⟩]
        current := 1 }
    (session.step (.rebuild none)).yielded = .done (.error (.of .noValidMappings)) ∧
      (session.step (.rebuild none)).state = { session with store := ⟨.empty, []⟩ } ∧
      (start {} session.registry session.store none none).1 = .error (.of .noValidMappings) ∧
      (buildOver {} session.registry session.store none none).yielded.registry =
        session.registry := by
  intro session
  obtain ⟨rebuildKeeps, rebuildFails, startKeeps, startFails⟩ :=
    failed_build_changes_nothing session {} session.registry session.store none none
      (.of .noValidMappings)
  have unusable : ∀ entry ∈
      (OrderedMap.ofList [("orders", Json.object [("mappings", .null)])]).entries,
        CollectionMapping.properties? entry.2 = none := by decide
  have rebuildFailed := (rebuildFails _ rfl).mpr ⟨rfl, unusable⟩
  have startFailed := (startFails _ rfl).mpr ⟨rfl, unusable⟩
  exact ⟨rebuildFailed, rebuildKeeps rebuildFailed, startFailed, startKeeps startFailed⟩

end Session

end DocQuery
