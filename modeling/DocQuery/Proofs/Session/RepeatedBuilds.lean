import DocQuery.Proofs.Names.History
import DocQuery.Proofs.Session.FailedBuilds

/-!
# Builds that are repeated

A build from the same metadata as the build before it comes to the same. The schema depends
on the metadata alone. The names are registered a second time, and an identifier of several
names stands for one after the other again; but the last of them is the same both times
(`Registry.registerAll_registerAll`). `Session.repeated_build_changes_nothing` says so of two
builds in a row, and of two rebuilds of a handle.
-/

namespace DocQuery

variable {config : Config} {registry : Registry} {metadata : Fields}

/-- A build registers nothing that the same build before it has not registered. -/
theorem Compile.registry_of_build_build (config : Config) (registry : Registry)
    (metadata : Fields) :
    (build config (build config registry metadata).registry metadata).registry =
      (build config registry metadata).registry :=
  registry.registerAll_registerAll (registrations (contributions config metadata))

namespace Session

/-- A rebuild that receives metadata yields and leaves behind what the build from this
metadata comes to. -/
theorem step_rebuild {session : Session} {timeout : Option Nat}
    (obtained : (fetchMappings session.config session.store timeout).yielded = .ok metadata) :
    (session.step (.rebuild timeout)).yielded =
        .done ((Compile.build session.config session.registry metadata).schema.map fun _ => ()) ∧
      (session.step (.rebuild timeout)).state =
        { session with
          registry := (Compile.build session.config session.registry metadata).registry
          store := session.store.afterCall
          schemas :=
            match (Compile.build session.config session.registry metadata).schema with
            | .ok schema => session.schemas.set session.current schema
            | .error _ => session.schemas } := by
  have asked : (metadataFor session.config session.store none timeout).yielded = .ok metadata :=
    obtained
  have rebuilding : session.step (.rebuild timeout) = session.rebuild timeout := rfl
  rw [rebuilding, rebuild, buildOver_of_metadata asked]
  exact ⟨rfl, rfl⟩

/-- A second build from the same metadata fails like the first or has the same schema, and
leaves the registry as the first has left it, whatever was registered before. If a handle is
rebuilt twice from the same metadata, the second rebuild yields the same and changes no
handle and no name. -/
theorem repeated_build_changes_nothing (config : Config) (registry : Registry)
    (metadata : Fields) :
    (Compile.build config (Compile.build config registry metadata).registry metadata).schema =
        (Compile.build config registry metadata).schema ∧
      (Compile.build config (Compile.build config registry metadata).registry metadata).registry =
        (Compile.build config registry metadata).registry ∧
      ∀ (session first : Session) (timeout later : Option Nat),
        (fetchMappings session.config session.store timeout).yielded = .ok metadata →
        first = (session.step (.rebuild timeout)).state →
        (fetchMappings first.config first.store later).yielded = .ok metadata →
          (first.step (.rebuild later)).yielded = (session.step (.rebuild timeout)).yielded ∧
            (first.step (.rebuild later)).state = { first with store := first.store.afterCall } := by
  refine ⟨rfl, Compile.registry_of_build_build config registry metadata, ?rebuilds⟩
  case rebuilds =>
    intro session first timeout later obtained reached obtainedAgain
    obtain ⟨yielded, left⟩ := step_rebuild obtained
    obtain ⟨yieldedAgain, leftAgain⟩ := step_rebuild obtainedAgain
    have state := reached.trans left
    have sameConfig : first.config = session.config := by rw [state]
    have sameSchema : (Compile.build first.config first.registry metadata).schema =
        (Compile.build session.config session.registry metadata).schema := by
      rw [sameConfig]
      rfl
    have sameRegistry : (Compile.build first.config first.registry metadata).registry =
        first.registry := by
      rw [state]
      exact Compile.registry_of_build_build session.config session.registry metadata
    refine ⟨by rw [yieldedAgain, sameSchema, yielded], ?_⟩
    rw [leftAgain, sameSchema, sameRegistry]
    -- A schema that is set once more in its place is the same list of schemas.
    cases built : (Compile.build session.config session.registry metadata).schema with
    | error error => rfl
    | ok schema =>
        rw [state]
        simp only [built, List.set_set]

/-- Three names with one identifier, one of them registered before. The rebuild is repeated
and gives the handle the same schema; the identifier stands for the last of the names. -/
theorem repeated_build_of_colliding_fields :
    let metadata : Fields := .ofList [("orders", .object [("mappings", .object [("properties",
      .object [("unit price", .object [("type", .string "float")]),
        ("unit/price", .object [("type", .string "long")])])])])]
    let session : Session :=
      { config := {}
        registry := Registry.empty.register "unit_price"
        store := ⟨.empty, [.answers (.mappings metadata), .answers (.mappings metadata)]⟩
        schemas := [⟨.of Schema.rootName, .empty⟩]
        current := 0 }
    let first := (session.step (.rebuild none)).state
    let again := (first.step (.rebuild none)).state
    first.registry.toStoreName? "unit_price" = some "unit/price" ∧ first.registry.size = 4 ∧
      again = { first with store := first.store.afterCall } ∧
      again.registry.toStoreName? "unit_price" = some "unit/price" ∧ again.registry.size = 4 ∧
      (first.step (.rebuild none)).yielded = (session.step (.rebuild none)).yielded := by
  intro metadata session first again
  obtain ⟨_, _, rebuilds⟩ :=
    repeated_build_changes_nothing session.config session.registry metadata
  obtain ⟨yielded, same⟩ := rebuilds session first none none rfl rfl rfl
  have found : first.registry.toStoreName? "unit_price" = some "unit/price" := by decide +kernel
  have size : first.registry.size = 4 := by decide +kernel
  have kept : again.registry = first.registry := by
    rw [show again = _ from same]
  refine ⟨found, size, same, ?_, ?_, yielded⟩
  · rw [kept]
    exact found
  · rw [kept]
    exact size

end Session

end DocQuery
