import Mathlib.Data.List.Forall2
import DocQuery.Json.Reader
import DocQuery.Proofs.Maps.Bindings

/-!
# Keys of objects that are read

The reader puts every member of an object under its key, so that no object it returns has a
key twice, at any depth. `Json.keyed_of_read` says so; hence the members of an object that
was read are the fields that they make.
-/

namespace DocQuery.Json

/-- A value in which no object, at any depth, has a key twice. -/
inductive Keyed : Json → Prop where
  | null : Keyed .null
  | bool (value : Bool) : Keyed (.bool value)
  | number (value : Number) : Keyed (.number value)
  | string (value : String) : Keyed (.string value)
  | array {items : List Json} (inside : ∀ item ∈ items, Keyed item) : Keyed (.array items)
  | object {members : List (String × Json)} (distinct : (members.map Prod.fst).Nodup)
      (inside : ∀ member ∈ members, Keyed member.2) : Keyed (.object members)

/-- An array has no repeated keys if its items have none. -/
theorem Keyed.array_iff {items : List Json} :
    (Json.array items).Keyed ↔ ∀ item ∈ items, item.Keyed := by
  constructor
  · rintro (_ | _ | _ | _ | inside)
    exact inside
  · exact .array

/-- A value without repeated keys has distinct keys and such members. -/
theorem Keyed.object_iff {members : List (String × Json)} :
    (Json.object members).Keyed ↔
      (members.map Prod.fst).Nodup ∧ ∀ member ∈ members, member.2.Keyed := by
  constructor
  · rintro (_ | _ | _ | _ | _ | ⟨distinct, inside⟩)
    exact ⟨distinct, inside⟩
  · rintro ⟨distinct, inside⟩
    exact .object distinct inside

variable {cursor reached : Cursor} {value : Json}

/-- Reading the rest of a word gives the value that it stands for. -/
theorem eq_of_readWord {word : List UInt8} {meant : Json}
    (read : readWord meant word cursor = .ok (value, reached)) : value = meant := by
  induction word generalizing cursor with
  | nil => cases read; rfl
  | cons expected word ih =>
      rw [readWord] at read
      split at read
      · cases read
      · split at read
        · exact ih read
        · cases read

/-- What is read as a floating-point number is a number. -/
theorem exists_number_of_readFloat {negative : Bool} {significand : Nat} {exponent : Int}
    (read : readFloat cursor negative significand exponent = .ok (value, reached)) :
    ∃ number, value = .number number := by
  rw [readFloat] at read
  split at read
  · cases read
    exact ⟨_, rfl⟩
  · cases read

/-- So is what has an exponent. -/
theorem exists_number_of_readExponent {negative : Bool} {significand : Nat} {exponent : Int}
    (read : readExponent cursor negative significand exponent = .ok (value, reached)) :
    ∃ number, value = .number number := by
  simp only [readExponent] at read
  -- Whether there is a sign makes no difference to what follows it.
  generalize (if (decide (cursor.peek? = some 45) || decide (cursor.peek? = some 43)) = true then
    cursor.advance else cursor) = unsigned at read
  split at read
  · split at read <;> cases read
  · split at read
    · split at read
      · cases read
      · cases read
        exact ⟨_, rfl⟩
    · exact exists_number_of_readFloat read

/-- So is what may have a fraction. -/
theorem exists_number_of_readFraction {negative : Bool} {significand dropped : Nat}
    (read : readFraction cursor negative significand dropped = .ok (value, reached)) :
    ∃ number, value = .number number := by
  simp only [readFraction] at read
  split at read
  · split at read
    · cases read
    · split at read
      · exact exists_number_of_readExponent read
      · exact exists_number_of_readExponent read
      · exact exists_number_of_readFloat read
  · exact exists_number_of_readExponent read
  · exact exists_number_of_readExponent read
  · split at read
    · cases read
      exact ⟨_, rfl⟩
    · exact exists_number_of_readFloat read

/-- What is read as a number is a number. -/
theorem exists_number_of_readNumber {negative : Bool}
    (read : readNumber cursor negative = .ok (value, reached)) :
    ∃ number, value = .number number := by
  rw [readNumber] at read
  split at read
  · split at read <;> cases read
  · cases read
  · exact exists_number_of_readFraction read

/-- Members of an object with distinct keys, and values that have distinct keys inside. -/
structure KeyedMembers (members : List (String × Json)) : Prop where
  distinct : (members.map Prod.fst).Nodup
  inside : ∀ member ∈ members, member.2.Keyed

/-- A member that is put under its key replaces the one before it. -/
theorem KeyedMembers.put {members : List (String × Json)} (keyed : KeyedMembers members)
    (key : String) (valueKeyed : value.Keyed) : KeyedMembers (Entries.put key value members) where
  distinct := Entries.nodup_put keyed.distinct
  inside := by
    intro member listed
    rcases Entries.mem_of_mem_put listed with rfl | before
    · exact valueKeyed
    · exact keyed.inside member before

/-- Steps that succeed one after the other succeed each. -/
theorem exists_ok_of_bind {α β ε : Type} {first : Except ε α} {next : α → Except ε β} {result : β}
    (succeeds : first >>= next = .ok result) :
    ∃ between, first = .ok between ∧ next between = .ok result := by
  cases first with
  | error error => cases succeeds
  | ok between => exact ⟨between, rfl, succeeds⟩

/-- A list is read if each of its items is, and the results stand in their order. -/
theorem mapM_eq_ok_iff {α β ε : Type} {read : α → Except ε β} {related : α → β → Prop}
    {items : List α} {results : List β}
    (reads : ∀ item ∈ items, ∀ result, read item = .ok result ↔ related item result) :
    items.mapM read = .ok results ↔ List.Forall₂ related items results := by
  induction items generalizing results with
  | nil =>
      rw [List.mapM_nil, List.forall₂_nil_left_iff]
      exact ⟨fun done => (Except.ok.inj done).symm, fun none => none ▸ rfl⟩
  | cons item rest ih =>
      obtain ⟨itemReads, restReads⟩ := List.forall_mem_cons.mp reads
      rw [List.mapM_cons]
      constructor
      · intro done
        obtain ⟨result, one, done⟩ := exists_ok_of_bind done
        obtain ⟨others, more, made⟩ := exists_ok_of_bind done
        cases made
        exact .cons ((itemReads result).mp one) ((ih restReads).mp more)
      · intro matched
        cases matched with
        | cons one others =>
            rw [(itemReads _).mpr one, (ih restReads).mpr others]
            rfl

/-- What is read up to some depth has distinct keys, and so have the items of an array and
the members of an object. -/
structure ReadsKeyed (fuel : Nat) : Prop where
  value {depth cursor value reached} (read : readValue fuel depth cursor = .ok (value, reached)) :
    value.Keyed
  items {depth cursor first items reached}
    (read : readItems fuel depth cursor first = .ok (items, reached)) : ∀ item ∈ items, item.Keyed
  members {depth cursor first members all reached} (keyed : KeyedMembers members)
    (read : readMembers fuel depth cursor first members = .ok (all, reached)) : KeyedMembers all

/-- A value has distinct keys if what is read inside it has. -/
theorem ReadsKeyed.value_succ {fuel depth : Nat} (reads : ReadsKeyed fuel)
    (read : readValue (fuel + 1) depth cursor = .ok (value, reached)) : value.Keyed := by
  simp only [readValue] at read
  split at read
  · cases read
  · exact eq_of_readWord read ▸ .null
  · exact eq_of_readWord read ▸ .bool true
  · exact eq_of_readWord read ▸ .bool false
  · obtain ⟨number, rfl⟩ := exists_number_of_readNumber read
    exact .number number
  · obtain ⟨⟨text, _⟩, _, made⟩ := exists_ok_of_bind read
    cases made
    exact .string text
  · split at read
    · cases read
    · obtain ⟨⟨items, _⟩, inside, made⟩ := exists_ok_of_bind read
      cases made
      exact .array (reads.items inside)
  · split at read
    · cases read
    · obtain ⟨⟨members, _⟩, inside, made⟩ := exists_ok_of_bind read
      cases made
      have none : KeyedMembers [] := ⟨List.nodup_nil, fun _ member => nomatch member⟩
      have keyed := reads.members none inside
      exact .object keyed.distinct keyed.inside
  · split at read
    · obtain ⟨number, rfl⟩ := exists_number_of_readNumber read
      exact .number number
    · split at read <;> cases read

/-- The items of an array have distinct keys if the first and the others have. -/
theorem ReadsKeyed.items_succ {fuel depth : Nat} {first : Bool} {items : List Json}
    (reads : ReadsKeyed fuel)
    (read : readItems (fuel + 1) depth cursor first = .ok (items, reached)) :
    ∀ item ∈ items, item.Keyed := by
  simp only [readItems] at read
  split at read
  · cases read
  · cases read
    exact nofun
  · repeat' split at read
    -- Wherever the item starts, it is read like any value, and the others are read after it.
    all_goals
      obtain ⟨_, _, read⟩ := exists_ok_of_bind read
      obtain ⟨⟨item, _⟩, one, read⟩ := exists_ok_of_bind read
      obtain ⟨⟨others, _⟩, more, made⟩ := exists_ok_of_bind read
      cases made
      exact List.forall_mem_cons.mpr ⟨reads.value one, reads.items more⟩

/-- The members of an object are keyed if they were before one more is put and the others
follow. -/
theorem ReadsKeyed.members_succ {fuel depth : Nat} {first : Bool}
    {members all : List (String × Json)} (reads : ReadsKeyed fuel) (keyed : KeyedMembers members)
    (read : readMembers (fuel + 1) depth cursor first members = .ok (all, reached)) :
    KeyedMembers all := by
  simp only [readMembers] at read
  split at read
  · cases read
  · cases read
    exact keyed
  · repeat' split at read
    -- Wherever the member starts, its key is followed by a value and by the other members.
    all_goals
      obtain ⟨_, _, read⟩ := exists_ok_of_bind read
      obtain ⟨⟨key, _⟩, _, read⟩ := exists_ok_of_bind read
      split at read
      · obtain ⟨⟨value, _⟩, one, read⟩ := exists_ok_of_bind read
        exact reads.members (keyed.put key (reads.value one)) read
      · cases read
      · cases read

/-- However deep it is, what is read has distinct keys. -/
theorem readsKeyed (fuel : Nat) : ReadsKeyed fuel := by
  induction fuel with
  | zero =>
      refine ⟨fun read => ?_, fun read => ?_, fun _ read => ?_⟩ <;>
        simp only [readValue, readItems, readMembers] at read <;> cases read
  | succ fuel ih => exact ⟨ih.value_succ, ih.items_succ, ih.members_succ⟩

/-- No object that is read has a key twice. -/
theorem keyed_of_read {bytes : List UInt8} (written : read bytes = .ok value) : value.Keyed := by
  obtain ⟨⟨inside, _⟩, one, ended⟩ := exists_ok_of_bind written
  simp only at ended
  split at ended
  · cases ended
    exact (readsKeyed _).value one
  · cases ended

/-- Members with distinct keys are those of the fields that they make. -/
theorem Keyed.eq_ofFields {members : List (String × Json)} (keyed : (Json.object members).Keyed) :
    Json.object members = ofFields (.ofList members) := by
  cases keyed with
  | object distinct _ =>
      exact congrArg Json.object
        (congrArg OrderedMap.entries (OrderedMap.ofList_entries ⟨members, distinct⟩)).symm

end DocQuery.Json
