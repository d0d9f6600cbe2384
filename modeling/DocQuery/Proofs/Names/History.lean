import DocQuery.Names.Registry
import DocQuery.Proofs.Maps.Bindings
import DocQuery.Proofs.Names.Identifiers

/-!
# Histories of the name registry

What a registry holds after a sequence of registrations is read off the
sequence: forward look-up asks whether a name occurs, backward look-up asks which
name with the identifier occurs last. `Names.latest?` is that name.

A registry is free of collisions if no two registered names share an identifier.
Then the two look-ups are inverse to each other.
-/

namespace DocQuery

namespace Names

/-- The name registered last among those with a given identifier. -/
def latest? (names : List String) (identifier : String) : Option String :=
  Entries.findLast? identifier (names.map fun name => (normalize name, name))

/-- The latest name has the identifier, and none behind it has. -/
theorem latest?_eq_some_iff {names : List String} {identifier name : String} :
    latest? names identifier = some name ↔
      ∃ earlier later, names = earlier ++ name :: later ∧ normalize name = identifier ∧
        ∀ other ∈ later, normalize other ≠ identifier :=
  Entries.findLast?_named_eq_some_iff

/-- Every listed name has a latest name with its identifier. -/
theorem exists_latest? {names : List String} {name : String} (member : name ∈ names) :
    ∃ latest, latest? names (normalize name) = some latest :=
  Entries.exists_findLast?_named member

end Names

namespace Registry

/-- No two registered names have the same identifier. -/
def CollisionFree (registry : Registry) : Prop :=
  ∀ first second identifier, registry.toIdentifier? first = some identifier →
    registry.toIdentifier? second = some identifier → first = second

/-- Registering names binds each identifier to its name. -/
theorem storeNames_registerAll (registry : Registry) (names : List String) :
    (registry.registerAll names).storeNames =
      registry.storeNames.insertAll (names.map fun name => (Names.normalize name, name)) := by
  induction names generalizing registry with
  | nil => rfl
  | cons head rest ih => rw [registerAll_cons, ih]; rfl

/-- Registering names binds each to its identifier. -/
theorem identifiers_registerAll (registry : Registry) (names : List String) :
    (registry.registerAll names).identifiers =
      registry.identifiers.insertAll (names.map fun name => (name, Names.normalize name)) := by
  induction names generalizing registry with
  | nil => rfl
  | cons head rest ih => rw [registerAll_cons, ih]; rfl

/-- Registering the same names once more changes nothing. While it goes on, identifiers may
stand for other names than before; in the end each stands again for the last one with it. -/
theorem registerAll_registerAll (registry : Registry) (names : List String) :
    (registry.registerAll names).registerAll names = registry.registerAll names := by
  have forward : ((registry.registerAll names).registerAll names).identifiers =
      (registry.registerAll names).identifiers := by
    rw [identifiers_registerAll, identifiers_registerAll, OrderedMap.insertAll_insertAll]
  have backward : ((registry.registerAll names).registerAll names).storeNames =
      (registry.registerAll names).storeNames := by
    rw [storeNames_registerAll, storeNames_registerAll, OrderedMap.insertAll_insertAll]
  exact congrArg₂ Registry.mk forward backward

/-- A name is known from when it is registered, and always under its own identifier. -/
theorem toIdentifier?_registerAll (registry : Registry) (names : List String) (name : String) :
    (registry.registerAll names).toIdentifier? name =
      if name ∈ names then some (Names.normalize name) else registry.toIdentifier? name := by
  induction names generalizing registry with
  | nil => rfl
  | cons head rest ih =>
      rw [registerAll_cons, ih, toIdentifier?_register]
      by_cases same : head = name
      · simp [same]
      · have differ : name ≠ head := fun equal => same equal.symm
        simp [same, differ]

/-- An identifier stands for the name with it that was registered last. -/
theorem toStoreName?_registerAll (registry : Registry) (names : List String)
    (identifier : String) :
    (registry.registerAll names).toStoreName? identifier =
      (Names.latest? names identifier).or (registry.toStoreName? identifier) := by
  rw [toStoreName?, storeNames_registerAll, OrderedMap.find?_insertAll]
  rfl

/-- In a registry that started empty exactly the registered names are known. -/
theorem toIdentifier?_registerAll_empty {names : List String} {name identifier : String} :
    (empty.registerAll names).toIdentifier? name = some identifier ↔
      name ∈ names ∧ Names.normalize name = identifier := by
  rw [toIdentifier?_registerAll]
  by_cases member : name ∈ names
  · simp [member]
  · simp [member, toIdentifier?, empty]

/-- In a registry that started empty an identifier stands for the latest name with it. -/
theorem toStoreName?_registerAll_empty (names : List String) (identifier : String) :
    (empty.registerAll names).toStoreName? identifier = Names.latest? names identifier := by
  rw [toStoreName?_registerAll]
  exact Option.or_none

/-- In a registry that started empty, the store name that an identifier stands for has this
identifier, if it is registered at all. A name that stands for itself is no exception, since
identifiers are left as they are. -/
theorem identifier_of_storeName {names : List String} {identifier other : String}
    (isIdentifier : Names.IsIdentifier identifier)
    (known : (empty.registerAll names).toIdentifier?
      ((empty.registerAll names).storeName identifier) = some other) : other = identifier := by
  obtain ⟨_, made⟩ := toIdentifier?_registerAll_empty.mp known
  rw [storeName, toStoreName?_registerAll_empty] at made
  cases latest : Names.latest? names identifier with
  | none =>
      rw [latest] at made
      exact made.symm.trans (Names.normalize_eq_self_iff.mpr isIdentifier)
  | some name =>
      rw [latest] at made
      obtain ⟨_, _, _, named, _⟩ := Names.latest?_eq_some_iff.mp latest
      exact made.symm.trans named

/-- In a registry that started empty there is no collision exactly if no two of the
registered names have one identifier. -/
theorem collisionFree_registerAll_empty_iff {names : List String} :
    (empty.registerAll names).CollisionFree ↔
      ∀ first ∈ names, ∀ second ∈ names,
        Names.normalize first = Names.normalize second → first = second := by
  constructor
  · intro free first firstMember second secondMember same
    exact free first second (Names.normalize second)
      (toIdentifier?_registerAll_empty.mpr ⟨firstMember, same⟩)
      (toIdentifier?_registerAll_empty.mpr ⟨secondMember, rfl⟩)
  · intro distinct first second identifier firstKnown secondKnown
    obtain ⟨firstMember, firstNamed⟩ := toIdentifier?_registerAll_empty.mp firstKnown
    obtain ⟨secondMember, secondNamed⟩ := toIdentifier?_registerAll_empty.mp secondKnown
    exact distinct first firstMember second secondMember (firstNamed.trans secondNamed.symm)

/-- Without collisions looking names up backward undoes looking them up forward. -/
theorem CollisionFree.toStoreName?_eq_some_iff {names : List String}
    (free : (empty.registerAll names).CollisionFree) {name identifier : String} :
    (empty.registerAll names).toStoreName? identifier = some name ↔
      (empty.registerAll names).toIdentifier? name = some identifier := by
  have forward : ∀ {other}, Names.latest? names identifier = some other →
      (empty.registerAll names).toIdentifier? other = some identifier := by
    intro other found
    obtain ⟨earlier, later, split, named, _⟩ := Names.latest?_eq_some_iff.mp found
    rw [toIdentifier?_registerAll_empty]
    exact ⟨by simp [split], named⟩
  rw [toStoreName?_registerAll_empty]
  constructor
  · exact forward
  · intro known
    obtain ⟨member, named⟩ := toIdentifier?_registerAll_empty.mp known
    obtain ⟨latest, found⟩ := Names.exists_latest? member
    rw [named] at found
    rw [found, free latest name identifier (forward found) known]

end Registry

end DocQuery
