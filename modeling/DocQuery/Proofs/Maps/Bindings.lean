import DocQuery.OrderedMap
import DocQuery.Proofs.Maps.FirstOccurrences
import Mathlib.Data.List.Basic

/-!
# Maps that lists of bindings describe

Inserting bindings one after another keeps the first place and the last value of
every key. `Entries.findLast?` says which value that is without a fold, and
`OrderedMap.find?_insertAll` and `OrderedMap.keys_insertAll` determine the whole
map from it.
-/

namespace DocQuery

universe u v w x

namespace Entries

variable {κ : Type u} {ν : Type v} [DecidableEq κ]

/-- The value of the last binding of `key`. -/
def findLast? (key : κ) : List (κ × ν) → Option ν
  | [] => none
  | (k, value) :: rest => (findLast? key rest).or (if k = key then some value else none)

@[simp] theorem findLast?_nil (key : κ) : findLast? key ([] : List (κ × ν)) = none := rfl

/-- A later list of bindings decides before an earlier one. -/
theorem findLast?_append (key : κ) (earlier later : List (κ × ν)) :
    findLast? key (earlier ++ later) = (findLast? key later).or (findLast? key earlier) := by
  induction earlier with
  | nil => simp
  | cons head rest ih => simp [findLast?, ih, Option.or_assoc]

/-- Without a binding of the key there is no value. -/
theorem findLast?_eq_none_iff {key : κ} {entries : List (κ × ν)} :
    findLast? key entries = none ↔ ∀ entry ∈ entries, entry.1 ≠ key := by
  induction entries with
  | nil => simp
  | cons head rest ih => by_cases same : head.1 = key <;> simp [findLast?, ih, same]

/-- The value that is found last belongs to a binding of the key. -/
theorem mem_of_findLast? {key : κ} {value : ν} {entries : List (κ × ν)}
    (found : findLast? key entries = some value) : (key, value) ∈ entries := by
  induction entries with
  | nil => simp at found
  | cons head rest ih =>
      rw [findLast?, Option.or_eq_some_iff] at found
      rcases found with later | ⟨_, here⟩
      · exact List.mem_cons_of_mem _ (ih later)
      · split at here
        · rename_i same
          simp only [Option.some.injEq] at here
          rw [← same, ← here]
          exact List.mem_cons_self
        · cases here

/-- Nothing behind the last binding of a key decides about it. -/
theorem findLast?_eq_of_last {key : κ} {value : ν} {before after : List (κ × ν)}
    (last : ∀ entry ∈ after, entry.1 ≠ key) :
    findLast? key (before ++ (key, value) :: after) = some value := by
  rw [findLast?_append, findLast?, findLast?_eq_none_iff.mpr last]
  simp

/-- Where keys are distinct, the first binding of a key is the last one. -/
theorem findLast?_eq_find? {key : κ} {entries : List (κ × ν)}
    (distinct : (entries.map Prod.fst).Nodup) : findLast? key entries = find? key entries := by
  induction entries with
  | nil => rfl
  | cons head rest ih =>
      obtain ⟨k, value⟩ := head
      rw [List.map_cons, List.nodup_cons] at distinct
      rw [findLast?, find?, ih distinct.2]
      by_cases same : k = key
      · have absent : find? key rest = none := by
          rw [Option.eq_none_iff_forall_ne_some]
          intro other found
          have member := (find?_isSome_iff key rest).mp (by rw [found]; rfl)
          exact distinct.1 (same ▸ member)
        simp [same, absent]
      · simp [same]

/-- Where keys are distinct, a look-up finds exactly the bindings. -/
theorem find?_eq_some_iff {key : κ} {value : ν} {entries : List (κ × ν)}
    (distinct : (entries.map Prod.fst).Nodup) :
    find? key entries = some value ↔ (key, value) ∈ entries := by
  constructor
  · intro found
    exact mem_of_findLast? (by rw [findLast?_eq_find? distinct, found])
  · intro member
    obtain ⟨before, after, split⟩ := List.append_of_mem member
    rw [← findLast?_eq_find? distinct, split]
    apply findLast?_eq_of_last
    intro entry later same
    rw [split, List.map_append, List.map_cons, List.nodup_append, List.nodup_cons] at distinct
    exact distinct.2.1.1 (List.mem_map.mpr ⟨entry, later, same⟩)

/-- Where keys are distinct, a list of bindings is its keys with what is found for them. -/
theorem eq_map_getD_find? {entries : List (κ × ν)} (distinct : (entries.map Prod.fst).Nodup)
    (default : ν) :
    entries = (entries.map Prod.fst).map fun key => (key, (find? key entries).getD default) := by
  rw [List.map_map]
  conv_lhs => rw [← List.map_id entries]
  apply List.map_congr_left
  rintro ⟨key, value⟩ member
  simp [(find?_eq_some_iff distinct).mpr member]

/-- Changing the values changes the value that is found last. -/
theorem findLast?_mapValues {μ : Type w} (key : κ) (entries : List (κ × ν)) (change : ν → μ) :
    findLast? key (entries.map fun entry => (entry.1, change entry.2)) =
      (findLast? key entries).map change := by
  induction entries with
  | nil => rfl
  | cons head rest ih =>
      rw [List.map_cons, findLast?, findLast?, ih, Option.map_or]
      split <;> rfl

/-- Changing the values changes the value that is found. -/
theorem find?_mapValues {μ : Type w} (key : κ) (entries : List (κ × ν)) (change : ν → μ) :
    find? key (entries.map fun entry => (entry.1, change entry.2)) =
      (find? key entries).map change := by
  induction entries with
  | nil => rfl
  | cons head rest ih =>
      rw [List.map_cons, find?, find?, ih]
      split <;> rfl

/-- An item that shares its key with no other is found by it. -/
theorem findLast?_map {ι : Type w} {items : List ι} {key : ι → κ} {value : ι → ν} {item : ι}
    (member : item ∈ items) (only : ∀ other ∈ items, key other = key item → other = item) :
    findLast? (key item) (items.map fun item => (key item, value item)) = some (value item) := by
  cases found : findLast? (key item) (items.map fun item => (key item, value item)) with
  | none => exact absurd rfl (findLast?_eq_none_iff.mp found _ (List.mem_map_of_mem member))
  | some result =>
      obtain ⟨other, listed, same⟩ := List.mem_map.mp (mem_of_findLast? found)
      simp only [Prod.mk.injEq] at same
      rw [← same.2, only other listed same.1]

/-- Among things that are bound under their names, the last one with a name is found. -/
theorem findLast?_named_eq_some_iff {name : ν → κ} {items : List ν} {key : κ} {item : ν} :
    findLast? key (items.map fun item => (name item, item)) = some item ↔
      ∃ earlier later, items = earlier ++ item :: later ∧ name item = key ∧
        ∀ other ∈ later, name other ≠ key := by
  constructor
  · intro found
    induction items with
    | nil => cases found
    | cons head rest ih =>
        rw [List.map_cons, findLast?, Option.or_eq_some_iff] at found
        rcases found with later | ⟨none, here⟩
        · obtain ⟨earlier, later, split, named, last⟩ := ih later
          exact ⟨head :: earlier, later, by rw [split, List.cons_append], named, last⟩
        · split at here
          · rename_i named
            simp only [Option.some.injEq] at here
            refine ⟨[], rest, by rw [here, List.nil_append], here ▸ named, ?_⟩
            intro other member
            exact findLast?_eq_none_iff.mp none _ (List.mem_map_of_mem member)
          · cases here
  · rintro ⟨earlier, later, rfl, rfl, last⟩
    rw [List.map_append, List.map_cons]
    apply findLast?_eq_of_last
    intro entry member
    obtain ⟨other, listed, rfl⟩ := List.mem_map.mp member
    exact last other listed

/-- For everything that is bound under its name something with this name is found. -/
theorem exists_findLast?_named {name : ν → κ} {items : List ν} {item : ν} (member : item ∈ items) :
    ∃ last, findLast? (name item) (items.map fun item => (name item, item)) = some last := by
  rw [← Option.isSome_iff_exists, Option.isSome_iff_ne_none]
  intro none
  exact findLast?_eq_none_iff.mp none _ (List.mem_map_of_mem member) rfl

/-- Where the parts of a list bind a key alike, if at all, so does the whole list. -/
theorem findLast?_flatMap_eq_none_or {ι : Type w} {part : ι → List (κ × ν)} {parts : List ι}
    {key : κ} {value : Option ν}
    (agree : ∀ other ∈ parts, findLast? key (part other) = none ∨
      findLast? key (part other) = value) :
    findLast? key (parts.flatMap part) = none ∨ findLast? key (parts.flatMap part) = value := by
  induction parts with
  | nil => exact .inl rfl
  | cons head rest ih =>
      rw [List.forall_mem_cons] at agree
      rw [List.flatMap_cons, findLast?_append]
      rcases ih agree.2 with absent | later
      · rw [absent, Option.none_or]
        exact agree.1
      · rw [later]
        rcases agree.1 with absent | here
        · exact .inr (by rw [absent, Option.or_none])
        · exact .inr (by rw [here, Option.or_self])

/-- Where the parts of a list bind a key alike, if at all, any part that binds it tells
what is found in the whole list. -/
theorem findLast?_flatMap {ι : Type w} {part : ι → List (κ × ν)} {parts : List ι} {key : κ}
    {owner : ι} (member : owner ∈ parts)
    (agree : ∀ other ∈ parts, findLast? key (part other) = none ∨
      findLast? key (part other) = findLast? key (part owner)) :
    findLast? key (parts.flatMap part) = findLast? key (part owner) := by
  obtain ⟨before, after, rfl⟩ := List.append_of_mem member
  rw [List.forall_mem_append, List.forall_mem_cons] at agree
  rw [List.flatMap_append, List.flatMap_cons, findLast?_append, findLast?_append]
  rcases findLast?_flatMap_eq_none_or agree.1 with absent | earlier <;>
    rcases findLast?_flatMap_eq_none_or agree.2.2 with absentLater | later <;>
      simp [*]

/-- Bindings under other keys and with other values. A binding is dropped where its
key has no counterpart or its value has none under that key. -/
def convert {ι : Type w} {μ : Type x} (rename? : κ → Option ι) (change? : κ → ν → Option μ)
    (entries : List (κ × ν)) : List (ι × μ) :=
  entries.filterMap fun (key, value) =>
    (rename? key).bind fun renamed => (change? key value).bind fun changed =>
      some (renamed, changed)

/-- Where a single key has a given counterpart, the converted value of that key is
found under the counterpart. -/
theorem findLast?_convert {ι : Type w} {μ : Type x} [DecidableEq ι] {rename? : κ → Option ι}
    {change? : κ → ν → Option μ} {entries : List (κ × ν)} {key : κ} {renamed : ι}
    (distinct : (entries.map Prod.fst).Nodup)
    (counterpart : ∀ other, rename? other = some renamed ↔ other = key) :
    findLast? renamed (convert rename? change? entries) =
      (find? key entries).bind (change? key) := by
  induction entries with
  | nil => rfl
  | cons head rest ih =>
      obtain ⟨k, value⟩ := head
      rw [List.map_cons, List.nodup_cons] at distinct
      have tail := ih distinct.2
      unfold convert at tail ⊢
      by_cases same : k = key
      · subst same
        have absent : find? k rest = none := by
          rw [← Option.not_isSome_iff_eq_none, find?_isSome_iff]
          exact distinct.1
        have named : rename? k = some renamed := (counterpart k).mpr rfl
        cases changed : change? k value <;>
          simp [find?, findLast?, named, changed, tail, absent]
      · cases named : rename? k with
        | none => simp [find?, named, tail, same]
        | some other =>
            have differ : other ≠ renamed := by
              rintro rfl
              exact same ((counterpart k).mp named)
            cases changed : change? k value <;>
              simp [find?, findLast?, named, changed, tail, same, differ]

/-- Where keys are distinct, what the bindings of one key contribute is what the value
that is found contributes. -/
theorem flatMap_of_key {ι : Type w} {key : κ} {entries : List (κ × ν)} (part : ν → List ι)
    (distinct : (entries.map Prod.fst).Nodup) :
    (entries.flatMap fun entry => if entry.1 = key then part entry.2 else []) =
      ((find? key entries).map part).getD [] := by
  induction entries with
  | nil => rfl
  | cons head rest ih =>
      obtain ⟨k, value⟩ := head
      rw [List.map_cons, List.nodup_cons] at distinct
      rw [List.flatMap_cons, ih distinct.2]
      by_cases same : k = key
      · have absent : find? key rest = none := by
          rw [← Option.not_isSome_iff_eq_none, find?_isSome_iff]
          exact same ▸ distinct.1
        simp [find?, same, absent]
      · simp [find?, same]

/-- After a binding is put, every binding is this one or was there before. -/
theorem mem_of_mem_put {key : κ} {value : ν} {entries : List (κ × ν)} {entry : κ × ν}
    (member : entry ∈ put key value entries) : entry = (key, value) ∨ entry ∈ entries := by
  induction entries with
  | nil => exact .inl (List.mem_singleton.mp member)
  | cons head rest ih =>
      rw [put] at member
      split at member
      · rename_i same
        rcases List.mem_cons.mp member with here | later
        · exact .inl (same ▸ here)
        · exact .inr (List.mem_cons_of_mem _ later)
      · rcases List.mem_cons.mp member with rfl | later
        · exact .inr List.mem_cons_self
        · exact (ih later).imp_right (List.mem_cons_of_mem _)

/-- Bindings of those keys that have a value. -/
def keyed (keys : List κ) (value? : κ → Option ν) : List (κ × ν) :=
  keys.filterMap fun key => (value? key).map fun value => (key, value)

omit [DecidableEq κ] in
/-- Only the values of the listed keys matter. -/
theorem keyed_congr {keys : List κ} {value? other? : κ → Option ν}
    (agree : ∀ key ∈ keys, value? key = other? key) : keyed keys value? = keyed keys other? := by
  apply List.filterMap_congr
  intro key member
  rw [agree key member]

/-- Where every key comes with a value of its own, that value is found. -/
theorem findLast?_keyed (keys : List κ) (value? : κ → Option ν) (key : κ) :
    findLast? key (keyed keys value?) = if key ∈ keys then value? key else none := by
  induction keys with
  | nil => rfl
  | cons head rest ih =>
      unfold keyed at ih ⊢
      by_cases same : head = key
      · subst same
        cases given : value? head with
        | none => simp [given, ih]
        | some value => by_cases again : head ∈ rest <;> simp [given, findLast?, ih, again]
      · have differ : key ≠ head := fun equal => same equal.symm
        cases given : value? head with
        | none => simp [given, ih, differ]
        | some value => simp [given, findLast?, ih, same, differ]

end Entries

namespace OrderedMap

variable {κ : Type u} {ν : Type v} [DecidableEq κ]

/-- A look-up finds exactly the bindings of a map. -/
theorem find?_eq_some_iff_mem {map : OrderedMap κ ν} {key : κ} {value : ν} :
    map.find? key = some value ↔ (key, value) ∈ map.entries :=
  Entries.find?_eq_some_iff map.distinct

/-- A map is its keys with what a look-up finds for them. -/
theorem entries_eq_keyed (map : OrderedMap κ ν) :
    map.entries = Entries.keyed map.keys map.find? := by
  rw [Entries.keyed, keys, List.filterMap_map]
  conv_lhs => rw [← List.filterMap_some (l := map.entries)]
  apply List.filterMap_congr
  rintro ⟨key, value⟩ member
  simp [find?_eq_some_iff_mem.mpr member]

/-- Maps with the same keys in the same order, under which the same is found, are the same. -/
theorem eq_of_find? {left right : OrderedMap κ ν} (sameKeys : left.keys = right.keys)
    (sameFound : ∀ key, left.find? key = right.find? key) : left = right := by
  ext1
  rw [entries_eq_keyed, sameKeys, funext sameFound, ← entries_eq_keyed]

/-- After insertions, the last inserted value of a key counts, and else the old one. -/
theorem find?_insertAll (map : OrderedMap κ ν) (entries : List (κ × ν)) (key : κ) :
    (map.insertAll entries).find? key = (Entries.findLast? key entries).or (map.find? key) := by
  induction entries generalizing map with
  | nil => simp
  | cons head rest ih =>
      obtain ⟨k, value⟩ := head
      rw [insertAll_cons, ih, find?_insert, Entries.findLast?, Option.or_assoc]
      by_cases same : k = key <;> simp [same]

/-- The value of a key in a map from a list is the last one. -/
theorem find?_ofList (entries : List (κ × ν)) (key : κ) :
    (ofList entries).find? key = Entries.findLast? key entries := by
  rw [ofList, find?_insertAll, find?_empty, Option.or_none]

/-- The bindings of a map from a list are in the list. -/
theorem mem_of_mem_ofList {entries : List (κ × ν)} {entry : κ × ν}
    (member : entry ∈ (ofList entries).entries) : entry ∈ entries := by
  have found : (ofList entries).find? entry.1 = some entry.2 := find?_eq_some_iff_mem.mpr member
  rw [find?_ofList] at found
  exact Entries.mem_of_findLast? found

/-- Keys keep the order in which they are first given. -/
theorem keys_insertAll (map : OrderedMap κ ν) (entries : List (κ × ν)) :
    (map.insertAll entries).keys = (map.keys ++ entries.map Prod.fst).eraseDups := by
  induction entries generalizing map with
  | nil =>
      rw [insertAll_nil, List.map_nil, List.append_nil]
      exact (FirstOccurrences.eraseDups_of_nodup map.distinct).symm
  | cons head rest ih =>
      obtain ⟨k, value⟩ := head
      rw [insertAll_cons, ih, keys_insert]
      split
      · rename_i bound
        have absorbed : (map.keys ++ [k]).eraseDups = map.keys.eraseDups := by
          rw [FirstOccurrences.eraseDups_concat, if_pos bound]
        rw [List.map_cons, ← FirstOccurrences.eraseDups_eraseDups_append, ← absorbed,
          FirstOccurrences.eraseDups_eraseDups_append, List.append_assoc, List.singleton_append]
      · rw [List.map_cons, List.append_assoc, List.singleton_append]

/-- Inserting the same bindings once more changes nothing: the keys have their places, and
the value of a key is the last inserted one, as before. -/
theorem insertAll_insertAll (map : OrderedMap κ ν) (entries : List (κ × ν)) :
    (map.insertAll entries).insertAll entries = map.insertAll entries := by
  have occurred : entries.map Prod.fst ⊆ (map.insertAll entries).keys := by
    intro key member
    rw [keys_insertAll, List.mem_eraseDups]
    exact List.mem_append_right _ member
  have placed : ((map.insertAll entries).insertAll entries).keys = (map.insertAll entries).keys := by
    rw [keys_insertAll (map.insertAll entries),
      FirstOccurrences.eraseDups_append_of_subset occurred]
    exact FirstOccurrences.eraseDups_of_nodup (map.insertAll entries).distinct
  refine eq_of_find? placed fun key => ?_
  rw [find?_insertAll (map.insertAll entries), find?_insertAll map]
  cases Entries.findLast? key entries <;> rfl

/-- The keys of a map from a list, in the order in which they are first given. -/
theorem keys_ofList (entries : List (κ × ν)) :
    (ofList entries).keys = (entries.map Prod.fst).eraseDups := by
  rw [ofList, keys_insertAll, keys_empty, List.nil_append]

/-- Inserting the bindings of a map makes that map. -/
theorem ofList_entries (map : OrderedMap κ ν) : ofList map.entries = map := by
  have keys : (ofList map.entries).keys = map.keys := by
    rw [keys_ofList]
    exact FirstOccurrences.eraseDups_of_nodup map.distinct
  refine eq_of_find? keys fun key => ?_
  rw [find?_ofList, Entries.findLast?_eq_find? map.distinct, find?]

/-- Where every key comes with a value of its own, only repetitions are dropped. -/
theorem entries_ofList_keyed (keys : List κ) (value? : κ → Option ν) :
    (ofList (Entries.keyed keys value?)).entries = Entries.keyed keys.eraseDups value? := by
  have bound : (Entries.keyed keys value?).map Prod.fst =
      keys.filter fun key => (value? key).isSome := by
    rw [Entries.keyed, List.map_filterMap, ← List.filterMap_eq_filter]
    apply List.filterMap_congr
    intro key _
    cases given : value? key <;> simp [Option.guard, given]
  have found : ∀ key ∈ keys, (ofList (Entries.keyed keys value?)).find? key = value? key := by
    intro key member
    rw [find?_ofList, Entries.findLast?_keyed, if_pos member]
  rw [entries_eq_keyed, keys_ofList, bound, FirstOccurrences.eraseDups_filter]
  unfold Entries.keyed at found ⊢
  rw [List.filterMap_filter]
  apply List.filterMap_congr
  intro key member
  rw [found key (List.mem_eraseDups.mp member)]
  cases value? key <;> rfl

/-- Items with keys of their own are bound once each, in the order of their first
occurrences. -/
theorem entries_ofList_map {ι : Type w} [DecidableEq ι] {key : ι → κ} {value : ι → ν}
    {items : List ι} (apart : ∀ item ∈ items, ∀ other ∈ items, key item = key other → item = other) :
    (ofList (items.map fun item => (key item, value item))).entries =
      items.eraseDups.map fun item => (key item, value item) := by
  have keys : (items.eraseDups.map fun item => (key item, value item)).map Prod.fst =
      (items.map key).eraseDups := by
    rw [List.map_map, ← FirstOccurrences.map_eraseDupsBy key items]
    refine congrArg (List.map key) (FirstOccurrences.eraseDupsBy_congr fun item member other
      otherMember => ?_)
    rw [Bool.eq_iff_iff, beq_iff_eq, beq_iff_eq]
    exact ⟨congrArg key, apart item member other otherMember⟩
  have distinct := keys ▸ FirstOccurrences.nodup_eraseDups (items.map key)
  have same : ofList (items.map fun item => (key item, value item)) =
      ⟨items.eraseDups.map fun item => (key item, value item), distinct⟩ := by
    refine eq_of_find? ?_ fun bound => ?_
    · rw [keys_ofList, List.map_map]
      exact keys.symm
    · ext found
      rw [find?_ofList, find?_eq_some_iff_mem]
      constructor
      · intro last
        obtain ⟨item, member, made⟩ := List.mem_map.mp (Entries.mem_of_findLast? last)
        exact List.mem_map.mpr ⟨item, List.mem_eraseDups.mpr member, made⟩
      · intro once
        obtain ⟨item, member, made⟩ := List.mem_map.mp once
        cases made
        have member := List.mem_eraseDups.mp member
        exact Entries.findLast?_map member fun other otherMember =>
          apart other otherMember item member
  rw [same]

/-- Keeping bindings by their keys. -/
theorem find?_filter_keys (map : OrderedMap κ ν) (keep : κ → Bool) (key : κ) :
    (map.filter fun k _ => keep k).find? key = if keep key then map.find? key else none := by
  ext value
  rw [find?_eq_some_iff_mem]
  by_cases kept : keep key = true
  · simp [filter, kept, find?_eq_some_iff_mem]
  · simp [filter, kept]

end OrderedMap

end DocQuery
