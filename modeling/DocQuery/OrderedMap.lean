/-!
# Insertion-ordered maps

An `OrderedMap` binds each key once and lists its keys in the order in which
they were first given. Binding a key again replaces the value and keeps the
place. `Entries` holds the same operations on bare association lists, for
types that nest maps inside themselves and so cannot carry the invariant.

The main statements say what `insert` does to look-up and to the key order.
-/

namespace DocQuery

universe u v w

namespace Entries

variable {κ : Type u} {ν : Type v} [DecidableEq κ]

/-- The value of the first binding of `key`. -/
def find? (key : κ) : List (κ × ν) → Option ν
  | [] => none
  | (k, value) :: rest => if k = key then some value else find? key rest

/-- Replaces the value of `key` in its place, or appends a binding. -/
def put (key : κ) (value : ν) : List (κ × ν) → List (κ × ν)
  | [] => [(key, value)]
  | (k, old) :: rest =>
    if k = key then (k, value) :: rest else (k, old) :: put key value rest

/-- A binding that was put is found, and no other look-up changes. -/
theorem find?_put (key other : κ) (value : ν) (entries : List (κ × ν)) :
    find? other (put key value entries) =
      if key = other then some value else find? other entries := by
  induction entries with
  | nil => by_cases h : key = other <;> simp [find?, put, h]
  | cons head rest ih =>
    obtain ⟨k, old⟩ := head
    by_cases hk : k = key
    · subst hk
      by_cases ho : k = other <;> simp [find?, put, ho]
    · by_cases ho : k = other
      · subst ho
        simp [find?, put, hk, Ne.symm hk]
      · simp [find?, put, hk, ho, ih]

/-- Putting a bound key keeps the key order; a new key comes last. -/
theorem keys_put (key : κ) (value : ν) (entries : List (κ × ν)) :
    (put key value entries).map Prod.fst =
      if key ∈ entries.map Prod.fst then entries.map Prod.fst
      else entries.map Prod.fst ++ [key] := by
  induction entries with
  | nil => simp [put]
  | cons head rest ih =>
    obtain ⟨k, old⟩ := head
    by_cases hk : k = key
    · subst hk
      simp [put]
    · have hk' : ¬ key = k := fun h => hk h.symm
      simp only [put, hk, if_false, List.map_cons, List.mem_cons, hk', false_or, ih]
      split <;> simp

/-- A look-up succeeds exactly at the keys. -/
theorem find?_isSome_iff (key : κ) (entries : List (κ × ν)) :
    (find? key entries).isSome ↔ key ∈ entries.map Prod.fst := by
  induction entries with
  | nil => simp [find?]
  | cons head rest ih =>
    obtain ⟨k, value⟩ := head
    by_cases hk : k = key
    · simp [find?, hk]
    · simp only [find?, hk, if_false, ih, List.map_cons, List.mem_cons]
      constructor
      · exact Or.inr
      · rintro (h | h)
        · exact absurd h.symm hk
        · exact h

/-- Distinct keys stay distinct. -/
theorem nodup_put {key : κ} {value : ν} {entries : List (κ × ν)}
    (distinct : (entries.map Prod.fst).Nodup) :
    ((put key value entries).map Prod.fst).Nodup := by
  rw [keys_put]
  split
  · exact distinct
  · rename_i fresh
    rw [List.nodup_append]
    refine ⟨distinct, by simp, ?_⟩
    intro a ha b hb
    rw [List.mem_singleton.1 hb]
    rintro rfl
    exact fresh ha

end Entries

/-- A finite map that remembers the order in which its keys were first given. -/
structure OrderedMap (κ : Type u) (ν : Type v) where
  /-- The bindings, oldest key first. -/
  entries : List (κ × ν)
  /-- Every key has one place. -/
  distinct : (entries.map Prod.fst).Nodup

namespace OrderedMap

variable {κ : Type u} {ν : Type v} {μ : Type w}

@[ext] theorem ext {left right : OrderedMap κ ν} (equal : left.entries = right.entries) :
    left = right := by
  cases left
  cases right
  cases equal
  rfl

instance [DecidableEq κ] [DecidableEq ν] : DecidableEq (OrderedMap κ ν) := fun left right =>
  decidable_of_iff (left.entries = right.entries) ⟨ext, fun equal => congrArg entries equal⟩

/-- The map without bindings. -/
def empty : OrderedMap κ ν := ⟨[], List.nodup_nil⟩

instance : Inhabited (OrderedMap κ ν) := ⟨empty⟩

/-- The keys, in order. -/
def keys (map : OrderedMap κ ν) : List κ := map.entries.map Prod.fst

/-- The values, in the order of their keys. -/
def values (map : OrderedMap κ ν) : List ν := map.entries.map Prod.snd

/-- The number of bindings. -/
def size (map : OrderedMap κ ν) : Nat := map.entries.length

/-- Whether nothing is bound. -/
def isEmpty (map : OrderedMap κ ν) : Bool := map.entries.isEmpty

/-- Keeps the bindings that satisfy `keep`. -/
def filter (keep : κ → ν → Bool) (map : OrderedMap κ ν) : OrderedMap κ ν where
  entries := map.entries.filter fun entry => keep entry.1 entry.2
  distinct := map.distinct.sublist (List.filter_sublist.map _)

/-- Changes the values and keeps the keys. -/
def mapValues (change : ν → μ) (map : OrderedMap κ ν) : OrderedMap κ μ where
  entries := map.entries.map fun entry => (entry.1, change entry.2)
  distinct := by
    rw [List.map_map]
    exact map.distinct

@[simp] theorem keys_empty : (empty : OrderedMap κ ν).keys = [] := rfl

variable [DecidableEq κ]

/-- The value bound to `key`. -/
def find? (map : OrderedMap κ ν) (key : κ) : Option ν := Entries.find? key map.entries

/-- Whether `key` is bound. -/
def contains (map : OrderedMap κ ν) (key : κ) : Bool := (map.find? key).isSome

/-- Binds `key`, in its old place if it has one and last otherwise. -/
def insert (map : OrderedMap κ ν) (key : κ) (value : ν) : OrderedMap κ ν where
  entries := Entries.put key value map.entries
  distinct := Entries.nodup_put map.distinct

/-- Inserts one binding after another. -/
def insertAll (map : OrderedMap κ ν) (entries : List (κ × ν)) : OrderedMap κ ν :=
  entries.foldl (fun map entry => map.insert entry.1 entry.2) map

/-- The map that a list of bindings describes: first place, last value. -/
def ofList (entries : List (κ × ν)) : OrderedMap κ ν := empty.insertAll entries

@[simp] theorem find?_empty (key : κ) : (empty : OrderedMap κ ν).find? key = none := rfl

theorem find?_insert (map : OrderedMap κ ν) (key other : κ) (value : ν) :
    (map.insert key value).find? other = if key = other then some value else map.find? other :=
  Entries.find?_put key other value map.entries

theorem keys_insert (map : OrderedMap κ ν) (key : κ) (value : ν) :
    (map.insert key value).keys = if key ∈ map.keys then map.keys else map.keys ++ [key] :=
  Entries.keys_put key value map.entries

/-- The keys are exactly where a look-up succeeds. -/
theorem find?_isSome_iff (map : OrderedMap κ ν) (key : κ) :
    (map.find? key).isSome ↔ key ∈ map.keys :=
  Entries.find?_isSome_iff key map.entries

@[simp] theorem insertAll_nil (map : OrderedMap κ ν) : map.insertAll [] = map := rfl

@[simp] theorem insertAll_cons (map : OrderedMap κ ν) (key : κ) (value : ν)
    (rest : List (κ × ν)) :
    map.insertAll ((key, value) :: rest) = (map.insert key value).insertAll rest := rfl

end OrderedMap

end DocQuery
