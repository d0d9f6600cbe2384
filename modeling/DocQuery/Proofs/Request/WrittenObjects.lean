import Mathlib.Data.List.Forall2
import Mathlib.Data.List.Nodup
import DocQuery.Proofs.Json.DistinctKeys
import DocQuery.Proofs.Request.FilterReading

/-!
# Maps that are written as objects

Bindings are written as the members of an object, one for each and in their order
(`WrittenAs`). If a reader of members accepts exactly what is written for a binding, then the
reader of objects accepts exactly what is written for a map: of an object as it stands
(`readMembers_iff`), and of one that is pruned first, in which members that are `null` are
passed over (`readPruned_iff`).
-/

namespace DocQuery

namespace Json

/-- The members that are not `null`. -/
def withoutNulls (members : List (String × Json)) : List (String × Json) :=
  members.filter fun member => !member.2.isNull

/-- They are members. -/
theorem mem_withoutNulls_iff {members : List (String × Json)} {member : String × Json} :
    member ∈ withoutNulls members ↔ member ∈ members ∧ member.2 ≠ .null := by
  rw [withoutNulls, List.mem_filter]
  cases member.2 <;> simp [isNull]

/-- Pruning drops members that are `null` and prunes the others. -/
theorem pruneMembers_eq (members : List (String × Json)) :
    pruneMembers members =
      (withoutNulls members).map fun member => (member.1, member.2.prune) := by
  induction members with
  | nil => rfl
  | cons head rest ih =>
      obtain ⟨key, value⟩ := head
      by_cases absent : value = .null
      · subst absent
        rw [pruneMembers_cons_null, ih]
        rfl
      · have kept : value.isNull = false := by
          cases value <;> first | rfl | exact absurd rfl absent
        rw [pruneMembers_cons absent, ih]
        simp [withoutNulls, kept]

/-- What is left after pruning is a scalar exactly if it was one before, and then the same. -/
theorem prune_eq_scalar_iff {value bound : Json} :
    bound = value.prune ∧ bound.isScalar = true ↔ bound = value ∧ value.isScalar = true := by
  constructor
  · rintro ⟨rfl, scalar⟩
    have before : value.isScalar = true := by
      cases value <;> first | rfl | cases scalar
    exact ⟨prune_of_isScalar before, before⟩
  · rintro ⟨rfl, scalar⟩
    rw [prune_of_isScalar scalar]
    exact ⟨rfl, scalar⟩

/-- Pruning does not make anything `null`. -/
theorem prune_ne_null {value : Json} (present : value ≠ .null) : value.prune ≠ .null := by
  cases value with
  | null => exact absurd rfl present
  | _ => simp [prune]

/-- An object with distinct keys is one of allowed members exactly if all members but `null` are
allowed. -/
theorem isObjectOf_iff {allowed : String → Json → Prop} {members : List (String × Json)}
    (distinct : (members.map Prod.fst).Nodup) :
    IsObjectOf allowed (.object members) ↔
      ∀ member ∈ withoutNulls members, allowed member.1 member.2 := by
  constructor
  · rintro ⟨_, ⟨⟩, _, inside⟩ member kept
    obtain ⟨listed, present⟩ := mem_withoutNulls_iff.mp kept
    exact (inside member listed).resolve_left present
  · intro inside
    refine ⟨members, rfl, distinct, fun member listed => or_iff_not_imp_left.mpr ?_⟩
    exact fun present => inside member (mem_withoutNulls_iff.mpr ⟨listed, present⟩)

/-- Objects of the same allowed members are the same objects. -/
theorem IsObjectOf.congr {allowed permitted : String → Json → Prop} {value : Json}
    (keyed : value.Keyed)
    (agree : ∀ key member, member.Keyed → (allowed key member ↔ permitted key member)) :
    value.IsObjectOf allowed ↔ value.IsObjectOf permitted := by
  refine exists_congr fun members => and_congr_right ?_
  rintro rfl
  obtain ⟨_, inside⟩ := Keyed.object_iff.mp keyed
  refine and_congr_right fun _ => forall₂_congr fun member listed => ?_
  exact or_congr_right (agree _ _ (inside member listed))

/-- The members that are not `null` have distinct keys, if all members have. -/
theorem nodup_withoutNulls {members : List (String × Json)}
    (distinct : (members.map Prod.fst).Nodup) :
    ((withoutNulls members).map Prod.fst).Nodup :=
  distinct.sublist (List.filter_sublist.map _)

end Json

section Objects

variable {κ ν : Type} {name : κ → String} {written : ν → Json → Prop}
  {members : List (String × Json)}

/-- Bindings are written as members: one for each, in the same order, under the name of the
key. -/
def WrittenAs (name : κ → String) (written : ν → Json → Prop) (bindings : List (κ × ν))
    (members : List (String × Json)) : Prop :=
  List.Forall₂ (fun binding member => name binding.1 = member.1 ∧ written binding.2 member.2)
    bindings members

/-- The keys of members that are written are the names of the keys of the bindings. -/
theorem WrittenAs.map_keys {bindings : List (κ × ν)}
    (related : WrittenAs name written bindings members) :
    (bindings.map Prod.fst).map name = members.map Prod.fst := by
  induction related with
  | nil => rfl
  | cons one _ ih => rw [List.map_cons, List.map_cons, List.map_cons, one.1, ih]

/-- Bindings that are written as members with distinct keys have distinct keys. -/
theorem WrittenAs.nodup_keys {bindings : List (κ × ν)}
    (related : WrittenAs name written bindings members)
    (distinct : (members.map Prod.fst).Nodup) : (bindings.map Prod.fst).Nodup := by
  rw [← related.map_keys] at distinct
  exact List.Nodup.of_map name distinct

/-- Members with distinct keys are those of a map exactly if each has the name of a key and
stands for a value. -/
theorem exists_writtenAs_iff (distinct : (members.map Prod.fst).Nodup) :
    (∃ map : OrderedMap κ ν, WrittenAs name written map.entries members) ↔
      ∀ member ∈ members, (∃ key, name key = member.1) ∧ ∃ value, written value member.2 := by
  have bindings : ∀ others : List (String × Json),
      (∃ bindings : List (κ × ν), WrittenAs name written bindings others) ↔
        ∀ member ∈ others, (∃ key, name key = member.1) ∧ ∃ value, written value member.2 := by
    intro others
    induction others with
    | nil => exact ⟨fun _ => by simp, fun _ => ⟨[], .nil⟩⟩
    | cons head rest ih =>
        rw [List.forall_mem_cons, ← ih]
        constructor
        · rintro ⟨bindings, related⟩
          cases related with
          | cons one others => exact ⟨⟨⟨_, one.1⟩, _, one.2⟩, _, others⟩
        · rintro ⟨⟨⟨key, named⟩, value, holds⟩, bindings, others⟩
          exact ⟨(key, value) :: bindings, .cons ⟨named, holds⟩ others⟩
  rw [← bindings members]
  constructor
  · rintro ⟨map, related⟩
    exact ⟨map.entries, related⟩
  · rintro ⟨bindings, related⟩
    exact ⟨⟨bindings, related.nodup_keys distinct⟩, related⟩

/-- Some map is written as an object exactly if the members but `null` have the names of keys
and stand for values. -/
theorem exists_writtenObject_iff {value : Json} (keyed : value.Keyed) :
    (∃ map : OrderedMap κ ν, ∃ members, value = .object members ∧
        WrittenAs name written map.entries (Json.withoutNulls members)) ↔
      value.IsObjectOf fun key member =>
        (∃ named, name named = key) ∧ ∃ meant, written meant member := by
  constructor
  · rintro ⟨map, members, rfl, related⟩
    obtain ⟨distinct, _⟩ := Json.Keyed.object_iff.mp keyed
    rw [Json.isObjectOf_iff distinct, ← exists_writtenAs_iff (Json.nodup_withoutNulls distinct)]
    exact ⟨map, related⟩
  · intro shaped
    obtain ⟨members, rfl, distinct, _⟩ := id shaped
    rw [Json.isObjectOf_iff distinct,
      ← exists_writtenAs_iff (Json.nodup_withoutNulls distinct)] at shaped
    obtain ⟨map, related⟩ := shaped
    exact ⟨map, members, rfl, related⟩

variable [DecidableEq κ]

/-- Members with distinct keys are read, into values that are admitted, exactly as the map
that they are written for, if this is so for every member. -/
theorem readMembers_iff (read : String × Json → Except FilterFault (κ × ν)) (admits : ν → Prop)
    (distinct : (members.map Prod.fst).Nodup)
    (keys : ∀ member key value, read member = .ok (key, value) → name key = member.1)
    (reads : ∀ member ∈ members, ∀ key value,
      read member = .ok (key, value) ∧ admits value ↔ name key = member.1 ∧ written value member.2)
    {map : OrderedMap κ ν} :
    (members.mapM read >>= fun bindings => Except.ok (OrderedMap.ofList bindings)) = .ok map ∧
        (∀ entry ∈ map.entries, admits entry.2) ↔
      WrittenAs name written map.entries members := by
  constructor
  · rintro ⟨made, admitted⟩
    obtain ⟨bindings, done, made⟩ := Json.exists_ok_of_bind made
    cases made
    have related : List.Forall₂ (fun member binding => member ∈ members ∧
        read member = .ok binding) members bindings :=
      (Json.mapM_eq_ok_iff fun member listed _ => ⟨fun one => ⟨listed, one⟩, And.right⟩).mp done
    -- The keys are distinct, so no binding replaces another.
    have named : WrittenAs name (fun _ _ => True) bindings members :=
      related.flip.imp fun _ _ one => ⟨keys _ _ _ one.2, trivial⟩
    have whole : (OrderedMap.ofList bindings).entries = bindings :=
      congrArg OrderedMap.entries
        (OrderedMap.ofList_entries ⟨bindings, named.nodup_keys distinct⟩)
    rw [whole] at admitted ⊢
    have each := (List.forall₂_and_left bindings members).mpr ⟨admitted, related.flip⟩
    exact each.imp fun _ _ one => (reads _ one.2.1 _ _).mp ⟨one.2.2, one.1⟩
  · intro related
    have each := ((List.forall₂_and_left members map.entries).mpr
      ⟨fun _ listed => listed, related.flip⟩).imp
        fun _ _ one => (reads _ one.1 _ _).mpr one.2
    have done : members.mapM read = .ok map.entries :=
      (Json.mapM_eq_ok_iff fun _ _ _ => Iff.rfl).mpr (each.imp fun _ _ one => one.1)
    have admitted := (List.forall₂_and_left map.entries members).mp
      (each.flip.imp fun _ _ one => ⟨one.2, one.1⟩)
    refine ⟨?_, admitted.1⟩
    rw [done]
    exact congrArg Except.ok map.ofList_entries

/-- An object with distinct keys is pruned and read, into values that are admitted, exactly as
the map that its members but `null` are written for. -/
theorem readPruned_iff (read : String × Json → Except FilterFault (κ × ν)) (admits : ν → Prop)
    {value : Json} (keyed : value.Keyed)
    (keys : ∀ member key value, read member = .ok (key, value) → name key = member.1)
    (reads : ∀ key (member : String × Json) value, member.2.Keyed → member.2 ≠ .null →
      (read (member.1, member.2.prune) = .ok (key, value) ∧ admits value ↔
        name key = member.1 ∧ written value member.2))
    {map : OrderedMap κ ν} :
    (do
        let members ← Filter.membersOf value.prune
        let bindings ← members.mapM read
        .ok (.ofList bindings)) = Except.ok map ∧ (∀ entry ∈ map.entries, admits entry.2) ↔
      ∃ members, value = .object members ∧
        WrittenAs name written map.entries (Json.withoutNulls members) := by
  cases value with
  | object members =>
      obtain ⟨distinct, inside⟩ := Json.Keyed.object_iff.mp keyed
      have each : _ ↔ WrittenAs name written map.entries (Json.withoutNulls members) :=
        readMembers_iff (fun member => read (member.1, member.2.prune)) admits
          (Json.nodup_withoutNulls distinct)
          (fun member key value => keys (member.1, member.2.prune) key value)
          (fun member kept key value => by
            obtain ⟨listed, present⟩ := Json.mem_withoutNulls_iff.mp kept
            exact reads key member value (inside member listed) present)
      have pruned : (Json.pruneMembers members).mapM read =
          (Json.withoutNulls members).mapM fun member => read (member.1, member.2.prune) := by
        rw [Json.pruneMembers_eq, List.mapM_map]
        rfl
      rw [← pruned] at each
      refine each.trans ⟨fun related => ⟨members, rfl, related⟩, ?_⟩
      rintro ⟨_, ⟨⟩, related⟩
      exact related
  | _ =>
      constructor
      · rintro ⟨⟨⟩, _⟩
      · rintro ⟨_, ⟨⟩, _⟩

end Objects

end DocQuery
