import DocQuery.Proofs.Names.History
import Mathlib.Data.Finset.Card

/-!
# Registering concurrently

Collections are compiled side by side. Each registers its names in its own order,
and every call is atomic, so what happens is an interleaving of these sequences.

`Registry.Reflects` says how the look-ups of a registry are read off the calls so
far. One call preserves it, hence every run does. Two runs over the same sequences
make the same calls in different orders; they agree on every forward look-up, and
on every backward look-up but those of identifiers that several names share.
-/

namespace DocQuery

namespace Names

/-- The name is listed, it has the identifier, and no name behind it has. -/
def IsLatest (history : List String) (identifier name : String) : Prop :=
  ∃ earlier later, history = earlier ++ name :: later ∧ normalize name = identifier ∧
    ∀ other ∈ later, normalize other ≠ identifier

theorem isLatest_iff {history : List String} {identifier name : String} :
    IsLatest history identifier name ↔ latest? history identifier = some name :=
  latest?_eq_some_iff.symm

/-- A further name is the latest one for its identifier and changes no other. -/
theorem latest?_concat (history : List String) (name identifier : String) :
    latest? (history ++ [name]) identifier =
      if normalize name = identifier then some name else latest? history identifier := by
  rw [latest?, List.map_append, Entries.findLast?_append]
  by_cases same : normalize name = identifier
  · simp [Entries.findLast?, same]
  · simp [Entries.findLast?, same, latest?]

end Names

namespace Registry

/-- A registry holds what a history of registrations leaves in it. -/
structure Reflects (registry : Registry) (history : List String) : Prop where
  /-- Exactly the registered names are known, each under its identifier. -/
  forward : ∀ name identifier, registry.toIdentifier? name = some identifier ↔
    name ∈ history ∧ identifier = Names.normalize name
  /-- An identifier stands for the name with it that was registered last. -/
  backward : ∀ identifier name, registry.toStoreName? identifier = some name ↔
    Names.IsLatest history identifier name
  /-- An identifier stands for nothing exactly if no registered name has it. -/
  absent : ∀ identifier, registry.toStoreName? identifier = none ↔
    ∀ name ∈ history, Names.normalize name ≠ identifier
  /-- Every registered name counts once. -/
  size : registry.size = history.toFinset.card

/-- Nothing has been registered in the empty registry. -/
theorem reflects_empty : Reflects empty [] where
  forward name identifier := by simp [toIdentifier?, empty]
  backward identifier name := by simp [toStoreName?, empty, Names.IsLatest]
  absent identifier := by simp [toStoreName?, empty]
  size := rfl

/-- A name is a key of the registry exactly if it was registered. -/
theorem Reflects.mem_keys_iff {registry : Registry} {history : List String}
    (reflects : registry.Reflects history) {name : String} :
    name ∈ registry.identifiers.keys ↔ name ∈ history := by
  rw [← OrderedMap.find?_isSome_iff, Option.isSome_iff_exists]
  constructor
  · rintro ⟨identifier, known⟩
    exact ((reflects.forward name identifier).mp known).1
  · intro member
    exact ⟨Names.normalize name, (reflects.forward name _).mpr ⟨member, rfl⟩⟩

/-- A call adds its name to the history. -/
theorem Reflects.register {registry : Registry} {history : List String}
    (reflects : registry.Reflects history) (name : String) :
    (registry.register name).Reflects (history ++ [name]) where
  forward other identifier := by
    rw [toIdentifier?_register]
    by_cases same : name = other
    · simp [same, eq_comm]
    · have differ : other ≠ name := fun equal => same equal.symm
      simp [same, differ, reflects.forward]
  backward identifier other := by
    rw [Names.isLatest_iff, Names.latest?_concat, toStoreName?_register]
    split
    · rfl
    · rw [reflects.backward, Names.isLatest_iff]
  absent identifier := by
    rw [toStoreName?_register]
    by_cases same : Names.normalize name = identifier
    · simp [same]
    · simp only [same, if_false, reflects.absent, List.mem_append, List.mem_singleton]
      constructor
      · rintro without other (listed | rfl)
        · exact without other listed
        · exact same
      · exact fun without other listed => without other (.inl listed)
  size := by
    have length : ∀ registry : Registry, registry.size = registry.identifiers.keys.length :=
      fun registry => (List.length_map _).symm
    have keys : (registry.register name).identifiers.keys = _ :=
      OrderedMap.keys_insert registry.identifiers name (Names.normalize name)
    have before := reflects.size
    rw [length] at before ⊢
    rw [keys, List.toFinset_append]
    by_cases again : name ∈ history
    · have absorbed : history.toFinset ∪ [name].toFinset = history.toFinset := by
        simp [again]
      rw [if_pos (reflects.mem_keys_iff.mpr again), absorbed, before]
    · have grown : (history.toFinset ∪ [name].toFinset).card = history.toFinset.card + 1 := by
        rw [Finset.union_comm]
        simp [again]
      rw [if_neg fun known => again (reflects.mem_keys_iff.mp known), grown, ← before,
        List.length_append, List.length_singleton]

/-- Further calls one after another add their names to the history. -/
theorem Reflects.registerAll {registry : Registry} {history : List String}
    (reflects : registry.Reflects history) (later : List String) :
    (registry.registerAll later).Reflects (history ++ later) := by
  induction later generalizing registry history with
  | nil =>
      rw [List.append_nil]
      exact reflects
  | cons name rest ih =>
      rw [registerAll_cons, List.append_cons]
      exact ih (reflects.register name)

/-- A registry that started empty reflects the calls that were made. -/
theorem reflects_registerAll_empty (history : List String) :
    (empty.registerAll history).Reflects history :=
  reflects_empty.registerAll history

/-- What an identifier stands for has this identifier. -/
theorem Reflects.toIdentifier?_of_toStoreName? {registry : Registry} {history : List String}
    (reflects : registry.Reflects history) {identifier name : String}
    (stands : registry.toStoreName? identifier = some name) :
    registry.toIdentifier? name = some identifier := by
  obtain ⟨earlier, later, split, named, _⟩ := (reflects.backward identifier name).mp stands
  rw [reflects.forward]
  exact ⟨by simp [split], named.symm⟩

/-- Histories of the same names agree on an identifier that only one of the names has. -/
theorem Reflects.toStoreName?_eq {first second : Registry} {history other : List String}
    (reflectsFirst : first.Reflects history) (reflectsSecond : second.Reflects other)
    (sameNames : ∀ name, name ∈ history ↔ name ∈ other) {identifier : String}
    (single : ∀ name ∈ history, ∀ another ∈ history, Names.normalize name = identifier →
      Names.normalize another = identifier → name = another) :
    first.toStoreName? identifier = second.toStoreName? identifier := by
  cases stands : first.toStoreName? identifier with
  | none =>
      symm
      rw [reflectsSecond.absent]
      intro name member
      exact (reflectsFirst.absent identifier).mp stands name ((sameNames name).mpr member)
  | some name =>
      have known := (reflectsFirst.forward _ _).mp
        (reflectsFirst.toIdentifier?_of_toStoreName? stands)
      cases otherStands : second.toStoreName? identifier with
      | none =>
          have without := (reflectsSecond.absent identifier).mp otherStands
          exact absurd known.2.symm (without name ((sameNames name).mp known.1))
      | some another =>
          have otherKnown := (reflectsSecond.forward _ _).mp
            (reflectsSecond.toIdentifier?_of_toStoreName? otherStands)
          rw [single name known.1 another ((sameNames another).mpr otherKnown.1) known.2.symm
            otherKnown.2.symm]

end Registry

/-- A registry, and for each of several tasks the names that it has still to register. -/
structure Registering where
  registry : Registry
  pending : List (List String)

namespace Registering

/-- One of the tasks registers its next name. -/
inductive Step : Registering → String → Registering → Prop where
  | register (registry : Registry) (before after : List (List String)) (name : String)
      (rest : List String) :
      Step ⟨registry, before ++ (name :: rest) :: after⟩ name
        ⟨registry.register name, before ++ rest :: after⟩

/-- Calls one after another, with the names in the order of the calls. -/
inductive Runs (start : Registering) : List String → Registering → Prop where
  | none : Runs start [] start
  | call {history : List String} {state next : Registering} {name : String}
      (prior : Runs start history state) (step : Step state name next) :
      Runs start (history ++ [name]) next

/-- No task has a name left to register. -/
def Complete (state : Registering) : Prop := ∀ names ∈ state.pending, names = []

variable {start state : Registering} {history : List String}

/-- A run is the sequence of its calls, whichever tasks they come from. -/
theorem Runs.registry_eq (runs : Runs start history state) :
    state.registry = start.registry.registerAll history := by
  induction runs with
  | none => rfl
  | call prior step ih =>
      cases step with
      | register => rw [Registry.registerAll_append, ← ih]; rfl

/-- Runs that meet make up one run. -/
theorem Runs.trans {middle : Registering} {later : List String}
    (runs : Runs start history middle) (others : Runs middle later state) :
    Runs start (history ++ later) state := by
  induction others with
  | none =>
      rw [List.append_nil]
      exact runs
  | call prior step ih =>
      rw [← List.append_assoc]
      exact ih.call step

/-- A task may register all of its names before another task goes on. -/
theorem runs_task (registry : Registry) (before after : List (List String))
    (names : List String) :
    Runs ⟨registry, before ++ names :: after⟩ names
      ⟨registry.registerAll names, before ++ [] :: after⟩ := by
  induction names generalizing registry with
  | nil => exact .none
  | cons name rest ih =>
      exact (Runs.none.call (.register registry before after name rest)).trans
        (ih (registry.register name))

/-- Tasks may go one after another, behind such as have nothing to register. -/
theorem runs_flatten (registry : Registry) (done tasks : List (List String)) :
    Runs ⟨registry, done ++ tasks⟩ tasks.flatten
      ⟨registry.registerAll tasks.flatten, done ++ tasks.map fun _ => []⟩ := by
  induction tasks generalizing registry done with
  | nil => exact .none
  | cons names rest ih =>
      have others := ih (registry.registerAll names) (done ++ [[]])
      rw [List.append_assoc, List.append_assoc, ← Registry.registerAll_append] at others
      exact (runs_task registry done rest names).trans others

/-- Every name that the tasks had to register is called for or still pending. -/
theorem Runs.perm (runs : Runs start history state) :
    (history ++ state.pending.flatten).Perm start.pending.flatten := by
  induction runs with
  | none => exact List.Perm.refl _
  | @call history state next name prior step ih =>
      refine List.Perm.trans ?_ ih
      cases step with
      | register registry before after name rest =>
          rw [List.append_assoc, List.flatten_append, List.flatten_append, List.flatten_cons,
            List.flatten_cons]
          refine List.Perm.append_left history ?_
          rw [List.singleton_append, List.cons_append]
          exact List.perm_middle.symm

/-- A complete run calls for exactly the names that the tasks had to register. -/
theorem Runs.perm_of_complete (runs : Runs start history state) (complete : state.Complete) :
    history.Perm start.pending.flatten := by
  have nothing : state.pending.flatten = [] := List.flatten_eq_nil_iff.mpr complete
  have all := runs.perm
  rwa [nothing, List.append_nil] at all

end Registering

namespace Registry

/-- What the calls say about a registry that started empty, in whatever order tasks
made them. Two complete runs of the same tasks know the same names, and differ at
most in what identifiers of several names stand for. -/
theorem calls_determine_registry :
    (∀ history : List String,
      (empty.registerAll history).Reflects history ∧
      (∀ identifier name, (empty.registerAll history).toStoreName? identifier = some name →
        (empty.registerAll history).toIdentifier? name = some identifier) ∧
      (∀ name, ((empty.registerAll history).register name).toStoreName?
        (Names.normalize name) = some name) ∧
      ∀ later name identifier,
        (empty.registerAll history).toIdentifier? name = some identifier →
          ((empty.registerAll history).registerAll later).toIdentifier? name =
            some identifier) ∧
    (∀ tasks history state, Registering.Runs ⟨empty, tasks⟩ history state →
      state.registry = empty.registerAll history) ∧
    ∀ tasks history other first second, Registering.Runs ⟨empty, tasks⟩ history first →
      Registering.Runs ⟨empty, tasks⟩ other second → first.Complete → second.Complete →
        (∀ name, first.registry.toIdentifier? name = second.registry.toIdentifier? name) ∧
        ∀ identifier,
          first.registry.toStoreName? identifier ≠ second.registry.toStoreName? identifier →
            ∃ name ∈ tasks.flatten, ∃ another ∈ tasks.flatten, name ≠ another ∧
              Names.normalize name = identifier ∧ Names.normalize another = identifier := by
  refine ⟨?history, fun tasks history state runs => runs.registry_eq, ?orders⟩
  case history =>
    intro history
    have reflects := reflects_registerAll_empty history
    refine ⟨reflects, fun _ _ => reflects.toIdentifier?_of_toStoreName?, ?_, ?_⟩
    · intro name
      rw [toStoreName?_register, if_pos rfl]
    · intro later name identifier known
      obtain ⟨member, named⟩ := (reflects.forward name identifier).mp known
      rw [(reflects.registerAll later).forward]
      exact ⟨List.mem_append_left later member, named⟩
  case orders =>
    intro tasks history other first second firstRuns secondRuns firstComplete secondComplete
    have firstPerm := firstRuns.perm_of_complete firstComplete
    have secondPerm := secondRuns.perm_of_complete secondComplete
    have firstReflects : first.registry.Reflects history :=
      firstRuns.registry_eq ▸ reflects_registerAll_empty history
    have secondReflects : second.registry.Reflects other :=
      secondRuns.registry_eq ▸ reflects_registerAll_empty other
    have sameNames : ∀ name, name ∈ history ↔ name ∈ other := fun name =>
      (firstPerm.trans secondPerm.symm).mem_iff
    constructor
    · intro name
      ext identifier
      rw [firstReflects.forward, secondReflects.forward, sameNames]
    · intro identifier differ
      by_contra shared
      apply differ
      apply firstReflects.toStoreName?_eq secondReflects sameNames
      intro name member another anotherMember named anotherNamed
      by_contra distinct
      exact shared ⟨name, firstPerm.mem_iff.mp member, another,
        firstPerm.mem_iff.mp anotherMember, distinct, named, anotherNamed⟩

/-- Two tasks register names with one identifier. Whichever comes last is what the
identifier stands for; every name is known either way. -/
theorem calls_determine_registry_of_colliding_tasks :
    ∃ first second,
      Registering.Runs ⟨empty, [["unit price"], ["unit_price", "stock"]]⟩
        ["unit price", "unit_price", "stock"] first ∧
      Registering.Runs ⟨empty, [["unit price"], ["unit_price", "stock"]]⟩
        ["unit_price", "stock", "unit price"] second ∧
      first.registry.Reflects ["unit price", "unit_price", "stock"] ∧
      second.registry.Reflects ["unit_price", "stock", "unit price"] ∧
      (∀ name, first.registry.toIdentifier? name = second.registry.toIdentifier? name) ∧
      first.registry.toStoreName? "unit_price" = some "unit_price" ∧
      second.registry.toStoreName? "unit_price" = some "unit price" ∧
      ∃ name ∈ ["unit price", "unit_price", "stock"],
        ∃ another ∈ ["unit price", "unit_price", "stock"], name ≠ another ∧
          Names.normalize name = "unit_price" ∧ Names.normalize another = "unit_price" := by
  obtain ⟨histories, sequential, orders⟩ := calls_determine_registry
  let tasks := [["unit price"], ["unit_price", "stock"]]
  have first : Registering.Runs ⟨empty, tasks⟩ ["unit price", "unit_price", "stock"]
      ⟨empty.registerAll ["unit price", "unit_price", "stock"], [[], []]⟩ :=
    .call (.call (.call .none (.register _ [] [["unit_price", "stock"]] _ _))
      (.register _ [[]] [] _ _)) (.register _ [[]] [] _ _)
  have second : Registering.Runs ⟨empty, tasks⟩ ["unit_price", "stock", "unit price"]
      ⟨empty.registerAll ["unit_price", "stock", "unit price"], [[], []]⟩ :=
    .call (.call (.call .none (.register _ [["unit price"]] [] _ _))
      (.register _ [["unit price"]] [] _ _)) (.register _ [] [[]] _ _)
  obtain ⟨forward, backward⟩ :=
    orders tasks _ _ _ _ first second (by simp [Registering.Complete])
      (by simp [Registering.Complete])
  exact ⟨_, _, first, second, (histories _).1, (histories _).1, forward, by decide, by decide,
    backward "unit_price" (by decide)⟩

end Registry

end DocQuery
