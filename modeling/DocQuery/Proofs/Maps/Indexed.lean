import DocQuery.Proofs.Maps.Bindings

/-!
# Maps that are indexed by names

Things that have names are kept in maps under these names. `OrderedMap.Indexes` says
so, together with a property that all values share. Inserting a thing with the
property under its own name keeps this, whatever it replaces.
-/

namespace DocQuery

universe u v w

/-- Lists agree in all that is determined, for each of their items, by something in which
they agree. -/
theorem map_eq_map_of_determined {α : Type u} {β : Type v} {γ : Type w} {given : α → β}
    {determined : α → γ} {items others : List α} (same : items.map given = others.map given)
    (determines : ∀ item ∈ items, ∀ other ∈ others,
      given item = given other → determined item = determined other) :
    items.map determined = others.map determined := by
  induction items generalizing others with
  | nil =>
      rw [List.map_nil] at same
      rw [List.map_eq_nil_iff.mp same.symm]
  | cons item items ih =>
      obtain ⟨other, rest, rfl, sameItem, sameItems⟩ := List.map_eq_cons_iff.mp same.symm
      rw [List.map_cons, List.map_cons,
        determines item List.mem_cons_self other List.mem_cons_self sameItem.symm,
        ih sameItems.symm fun item member other otherMember =>
          determines item (List.mem_cons_of_mem _ member) other (List.mem_cons_of_mem _ otherMember)]

namespace Entries

variable {κ : Type u} {ν : Type v} [DecidableEq κ]

/-- Once a binding is put there is one. -/
theorem put_ne_nil (key : κ) (value : ν) (entries : List (κ × ν)) :
    put key value entries ≠ [] := by
  cases entries with
  | nil => simp [put]
  | cons head rest =>
      rw [put]
      split <;> simp

end Entries

namespace OrderedMap

variable {κ : Type u} {ν : Type v}

/-- Every value has a property and is found under its own name. -/
def Indexes (map : OrderedMap κ ν) (name : ν → κ) (property : ν → Prop) : Prop :=
  ∀ entry ∈ map.entries, entry.1 = name entry.2 ∧ property entry.2

variable {map : OrderedMap κ ν} {name : ν → κ} {property : ν → Prop}

theorem indexes_empty : (empty : OrderedMap κ ν).Indexes name property := by
  intro entry member
  cases member

/-- The values of an indexed map have the property. -/
theorem Indexes.of_mem_values (indexes : map.Indexes name property) {value : ν}
    (member : value ∈ map.values) : property value := by
  obtain ⟨entry, listed, rfl⟩ := List.mem_map.mp member
  exact (indexes entry listed).2

/-- The property may be weakened. -/
theorem Indexes.imp {weaker : ν → Prop} (indexes : map.Indexes name property)
    (weaken : ∀ value, property value → weaker value) : map.Indexes name weaker := by
  intro entry member
  exact ⟨(indexes entry member).1, weaken _ (indexes entry member).2⟩

/-- The values of an indexed map determine it. -/
theorem Indexes.eq_of_values {other : OrderedMap κ ν} {otherProperty : ν → Prop}
    (indexes : map.Indexes name property) (otherIndexes : other.Indexes name otherProperty)
    (same : map.values = other.values) : map = other := by
  have bindings : ∀ {map : OrderedMap κ ν} {property : ν → Prop}, map.Indexes name property →
      map.entries = map.values.map fun value => (name value, value) := by
    intro map property indexes
    rw [values, List.map_map]
    conv_lhs => rw [← List.map_id map.entries]
    apply List.map_congr_left
    intro entry member
    exact Prod.ext (indexes entry member).1 rfl
  rw [OrderedMap.ext_iff, bindings indexes, bindings otherIndexes, same]

@[simp] theorem values_mapValues {μ : Type w} (change : ν → μ) (map : OrderedMap κ ν) :
    (map.mapValues change).values = map.values.map change := by
  simp [values, mapValues]

/-- Changing what is not the name keeps a map indexed. -/
theorem Indexes.mapValues {μ : Type w} {change : ν → μ} {newName : μ → κ}
    (indexes : map.Indexes name property) (keeps : ∀ value, newName (change value) = name value) :
    (map.mapValues change).Indexes newName fun _ => True := by
  intro entry member
  obtain ⟨before, listed, rfl⟩ := List.mem_map.mp member
  exact ⟨(indexes before listed).1.trans (keeps before.2).symm, trivial⟩

variable [DecidableEq κ]

/-- What is found in an indexed map has the property and the name it is found under. -/
theorem Indexes.of_find? (indexes : map.Indexes name property) {key : κ} {value : ν}
    (found : map.find? key = some value) : name value = key ∧ property value :=
  have entry := indexes _ (find?_eq_some_iff_mem.mp found)
  ⟨entry.1.symm, entry.2⟩

/-- A value that is found in an indexed map is the only one with its name. -/
theorem Indexes.filter_values (indexes : map.Indexes name property) {key : κ} {value : ν}
    (found : map.find? key = some value) :
    (map.values.filter fun other => name other = key) = [value] := by
  obtain ⟨before, after, split⟩ := List.append_of_mem (find?_eq_some_iff_mem.mp found)
  have distinct := map.distinct
  unfold Indexes at indexes
  rw [split] at indexes distinct
  rw [List.map_append, List.map_cons, List.nodup_append, List.nodup_cons] at distinct
  have others : ∀ entry, entry ∈ before ∨ entry ∈ after → name entry.2 ≠ key := by
    intro entry member same
    have listed : entry ∈ before ++ (key, value) :: after := by
      rcases member with earlier | later
      · exact List.mem_append_left _ earlier
      · exact List.mem_append_right _ (List.mem_cons_of_mem _ later)
    have bound : entry.1 = key := (indexes entry listed).1.trans same
    rcases member with earlier | later
    · exact distinct.2.2 entry.1 (List.mem_map_of_mem earlier) key List.mem_cons_self bound
    · exact distinct.2.1.1 (List.mem_map.mpr ⟨entry, later, bound⟩)
  have own : key = name value :=
    (indexes (key, value) (List.mem_append_right _ List.mem_cons_self)).1
  have none (part : List (κ × ν)) (apart : ∀ entry ∈ part, name entry.2 ≠ key) :
      ((part.map Prod.snd).filter fun other => name other = key) = [] := by
    rw [List.filter_map, List.map_eq_nil_iff, List.filter_eq_nil_iff]
    intro entry member
    simpa using apart entry member
  rw [values, split, List.map_append, List.map_cons, List.filter_append, List.filter_cons,
    none before fun entry member => others entry (.inl member),
    none after fun entry member => others entry (.inr member)]
  simp [own]

/-- Insertion under the own name keeps a map indexed. -/
theorem Indexes.insert (indexes : map.Indexes name property) {value : ν}
    (holds : property value) : (map.insert (name value) value).Indexes name property := by
  intro entry member
  rcases Entries.mem_of_mem_put member with rfl | before
  · exact ⟨rfl, holds⟩
  · exact indexes entry before

/-- Insertions under the own names keep a map indexed. -/
theorem Indexes.insertAll (indexes : map.Indexes name property) {values : List ν}
    (hold : ∀ value ∈ values, property value) :
    (map.insertAll (values.map fun value => (name value, value))).Indexes name property := by
  induction values generalizing map with
  | nil => exact indexes
  | cons head rest ih =>
      have inserted := indexes.insert (hold head List.mem_cons_self)
      exact ih inserted fun value member => hold value (List.mem_cons_of_mem _ member)

/-- A map of things under their own names is indexed. -/
theorem indexes_ofList {values : List ν} (hold : ∀ value ∈ values, property value) :
    (ofList (values.map fun value => (name value, value))).Indexes name property :=
  indexes_empty.insertAll hold

/-- After an insertion a map is not empty. -/
@[simp] theorem isEmpty_insert (key : κ) (value : ν) : (map.insert key value).isEmpty = false :=
  List.isEmpty_eq_false_iff.mpr (Entries.put_ne_nil key value map.entries)

/-- A map stays empty only if nothing is inserted. -/
theorem isEmpty_insertAll (map : OrderedMap κ ν) (entries : List (κ × ν)) :
    (map.insertAll entries).isEmpty = (map.isEmpty && entries.isEmpty) := by
  induction entries generalizing map with
  | nil => simp
  | cons head rest ih =>
      rw [insertAll_cons, ih, isEmpty_insert]
      simp

end OrderedMap

end DocQuery
