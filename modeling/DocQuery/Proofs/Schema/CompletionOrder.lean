import DocQuery.Proofs.Names.Concurrency
import DocQuery.Proofs.Schema.Assembly

/-!
# The order in which collections complete

Collections are compiled side by side and complete in any order. What each of them
contributes depends on its own metadata alone, and contributions are sorted before
they are merged. Where no two collections have one identifier there is only one way to
sort them, so the schema does not depend on the order, even where one collection takes
over a definition of another. Which names are known afterwards does not either.

`MayBuild` says what a build may come to, over all orders of completion and all
interleavings of registrations; `mayBuild_build` that building in the order of the
metadata is one of the ways.
-/

namespace DocQuery.Compile

variable {config : Config} {registry : Registry} {metadata other : Fields}

/-- No two collections that a build uses have one identifier. -/
def DistinctCollections (metadata : Fields) : Prop :=
  ((sort metadata).usable.map fun entry => Names.normalize entry.1).Nodup

instance : Decidable (DistinctCollections metadata) :=
  inferInstanceAs (Decidable (List.Nodup _))

/-- Distinct collections contribute under distinct identifiers. -/
theorem DistinctCollections.nodup_identifiers (distinct : DistinctCollections metadata) :
    ((contributions config metadata).map Contribution.identifier).Nodup := by
  rw [contributions, List.map_map]
  exact distinct

/-- Contributions with distinct identifiers can be sorted in one way only. -/
theorem inOrder_eq_of_perm {completed compiled : List Contribution}
    (permuted : completed.Perm compiled)
    (distinct : (compiled.map Contribution.identifier).Nodup) :
    inOrder completed = inOrder compiled := by
  have sameMembers := ((inOrder_perm completed).trans permuted).trans (inOrder_perm compiled).symm
  refine List.Perm.eq_of_pairwise ?_ (pairwise_inOrder completed) (pairwise_inOrder compiled)
    sameMembers
  intro first second firstMember secondMember before after
  have firstCompiled := permuted.mem_iff.mp ((inOrder_perm completed).mem_iff.mp firstMember)
  have secondCompiled := (inOrder_perm compiled).mem_iff.mp secondMember
  exact List.inj_on_of_nodup_map distinct firstCompiled secondCompiled
    (String.le_antisymm before after)

/-- So what is assembled does not depend on the order of completion. -/
theorem assemble_eq_of_perm {completed compiled : List Contribution}
    (permuted : completed.Perm compiled)
    (distinct : (compiled.map Contribution.identifier).Nodup) :
    assemble completed = assemble compiled := by
  simp only [assemble, inOrder_eq_of_perm permuted distinct]

/-- Which names are registered does not depend on the order of completion. -/
theorem registrations_perm {completed compiled : List Contribution}
    (permuted : completed.Perm compiled) :
    (registrations completed).Perm (registrations compiled) :=
  permuted.flatMap_right _

/-- What a build from metadata may come to. The collections complete in some order, and their
contributions are assembled in it; their names are registered in some interleaving, by which
the history of the calls is made up. Neither order restrains the other, since a collection may
complete long after its last registration. -/
structure MayBuild (config : Config) (registry : Registry) (metadata : Fields)
    (history : List String) (result : Except Error Schema) (after : Registry) : Prop where
  assembled : ∃ completed : List Contribution,
    completed.Perm (contributions config metadata) ∧ assemble completed = result
  registered : ∃ state, Registering.Runs
    ⟨registry, (contributions config metadata).map Contribution.registrations⟩ history state ∧
      state.Complete ∧ state.registry = after

namespace MayBuild

variable {history : List String} {result : Except Error Schema} {after : Registry}

/-- The registry holds what the calls leave in it. -/
theorem registry_eq (built : MayBuild config registry metadata history result after) :
    after = registry.registerAll history := by
  obtain ⟨state, runs, _, rfl⟩ := built.registered
  exact runs.registry_eq

/-- Whatever the interleaving, the names of the collections and of their fields are called for. -/
theorem perm (built : MayBuild config registry metadata history result after) :
    history.Perm (registrations (contributions config metadata)) := by
  obtain ⟨state, runs, complete, _⟩ := built.registered
  rw [registrations, List.flatMap_def]
  exact runs.perm_of_complete complete

/-- In a registry of its own, an identifier stands for the name with it that was registered
last. -/
theorem storeName_of_latest (built : MayBuild config .empty metadata history result after)
    {identifier name : String} (last : Names.IsLatest history identifier name) :
    after.storeName identifier = name := by
  rw [Registry.storeName, built.registry_eq, Registry.toStoreName?_registerAll_empty,
    Names.isLatest_iff.mp last]
  rfl

/-- Where no two collections have one identifier, the order of completion makes no difference
to the result. -/
theorem result_eq (built : MayBuild config registry metadata history result after)
    (distinct : DistinctCollections metadata) :
    assemble (contributions config metadata) = result := by
  obtain ⟨completed, order, assembled⟩ := built.assembled
  rw [← assemble_eq_of_perm order distinct.nodup_identifiers, assembled]

end MayBuild

/-- What a build may come to depends on what the collections contribute alone. -/
theorem mayBuild_congr {history : List String} {result : Except Error Schema} {after : Registry}
    (same : contributions config other = contributions config metadata) :
    MayBuild config registry other history result after ↔
      MayBuild config registry metadata history result after := by
  constructor
  · rintro ⟨assembled, registered⟩
    exact ⟨same ▸ assembled, same ▸ registered⟩
  · rintro ⟨assembled, registered⟩
    exact ⟨same.symm ▸ assembled, same.symm ▸ registered⟩

/-- One way to build is in the order of the metadata, one collection after another. -/
theorem mayBuild_build (config : Config) (registry : Registry) (metadata : Fields) :
    MayBuild config registry metadata (registrations (contributions config metadata))
      (build config registry metadata).schema (build config registry metadata).registry where
  assembled := ⟨_, .refl _, rfl⟩
  registered := by
    let tasks := (contributions config metadata).map Contribution.registrations
    have inTurn := Registering.runs_flatten registry [] tasks
    rw [show tasks.flatten = registrations (contributions config metadata) from
      List.flatMap_def.symm] at inTurn
    refine ⟨_, inTurn, ?_, rfl⟩
    intro names left
    obtain ⟨_, _, rfl⟩ := List.mem_map.mp left
    rfl

/-- Registries agree forward once the same names are registered, in whatever order. -/
theorem toIdentifier?_registerAll_of_perm {names permuted : List String}
    (perm : permuted.Perm names) (name : String) :
    (registry.registerAll permuted).toIdentifier? name =
      (registry.registerAll names).toIdentifier? name := by
  simp only [Registry.toIdentifier?_registerAll, perm.mem_iff]

/-- Where no two collections have one identifier, the order of the metadata makes no
difference to the result of a build, failure or schema, nor to the names known after
it. The same holds if collections complete in any order, and if their names are
registered in any interleaving. -/
theorem build_of_permuted_metadata (permuted : other.entries.Perm metadata.entries)
    (distinct : DistinctCollections metadata) :
    (build config registry other).schema = (build config registry metadata).schema ∧
    (∀ name, (build config registry other).registry.toIdentifier? name =
      (build config registry metadata).registry.toIdentifier? name) ∧
    (∀ completed : List Contribution, completed.Perm (contributions config metadata) →
      assemble completed = (build config registry metadata).schema) ∧
    ∀ completed : List Contribution, completed.Perm (contributions config metadata) → ∀ history state,
      Registering.Runs ⟨registry, completed.map Contribution.registrations⟩ history state →
        state.Complete → ∀ name, state.registry.toIdentifier? name =
          (build config registry metadata).registry.toIdentifier? name := by
  have reordered : (contributions config other).Perm (contributions config metadata) :=
    contributions_perm permuted
  have assembled : ∀ completed : List Contribution, completed.Perm (contributions config metadata) →
      assemble completed = (build config registry metadata).schema :=
    fun completed order => assemble_eq_of_perm order distinct.nodup_identifiers
  refine ⟨assembled _ reordered, ?forward, assembled, ?interleaved⟩
  case forward =>
    exact toIdentifier?_registerAll_of_perm (registrations_perm reordered)
  case interleaved =>
    intro completed order history state runs complete name
    have called : history.Perm (registrations (contributions config metadata)) := by
      refine (runs.perm_of_complete complete).trans ?_
      rw [← List.flatMap_def]
      exact registrations_perm order
    rw [runs.registry_eq]
    exact toIdentifier?_registerAll_of_perm called name

/-- Metadata of two collections, the second of which is named like the fetching of a
document of the first. -/
def collidingMetadata : Fields :=
  let described := fun kind : String => Json.object [("mappings", .object [("properties",
    .object [("at", .object [("type", .string kind)])])])]
  .ofList [("a", described "date"), ("a_by_id", described "long")]

/-- Both collections define `a_by_id`. The definition that counts does not depend on which
of them comes first, nor do the names that are known. -/
theorem build_of_permuted_colliding_metadata :
    ((mergedFields (contributions {} collidingMetadata)).map Field.name).count "a_by_id" = 2 ∧
      (build {} (.register .empty "at?") (.ofList collidingMetadata.entries.reverse)).schema =
        (build {} (.register .empty "at?") collidingMetadata).schema ∧
      ∀ name,
        (build {} (.register .empty "at?")
          (.ofList collidingMetadata.entries.reverse)).registry.toIdentifier? name =
        (build {} (.register .empty "at?") collidingMetadata).registry.toIdentifier? name := by
  have permuted : (OrderedMap.ofList collidingMetadata.entries.reverse).entries.Perm
      collidingMetadata.entries := List.reverse_perm collidingMetadata.entries
  have distinct : DistinctCollections collidingMetadata := by decide
  exact ⟨by decide +kernel, (build_of_permuted_metadata permuted distinct).1,
    (build_of_permuted_metadata permuted distinct).2.1⟩

end DocQuery.Compile
