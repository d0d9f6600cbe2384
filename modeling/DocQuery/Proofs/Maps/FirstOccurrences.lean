/-!
# First occurrences

`List.eraseDups` keeps the first occurrence of every item. Ordered maps list
their keys so, and so do projections and merged aggregations. The laws here say
how it meets `filter`, `++` and `flatMap`. Since what is left of a list after an item is
filtered before the next one is looked at, most proofs go by `filterInduction`.
-/

namespace DocQuery.FirstOccurrences

universe u v

variable {α : Type u} {β : Type v} [DecidableEq α]

omit [DecidableEq α] in
/-- Induction over lists whose rest is filtered before it is looked at. -/
@[elab_as_elim]
theorem filterInduction {motive : List β → Prop} (nil : motive [])
    (cons : ∀ head rest, (∀ keep : β → Bool, motive (rest.filter keep)) → motive (head :: rest))
    (items : List β) : motive items := by
  match items with
  | [] => exact nil
  | head :: rest => exact cons head rest fun keep => filterInduction nil cons (rest.filter keep)
termination_by items.length
decreasing_by
  have shorter := List.length_filter_le keep rest
  simp only [List.length_cons]
  omega

/-- Every item of a list without repetitions is the first of its sort. -/
theorem eraseDups_of_nodup {items : List α} (distinct : items.Nodup) : items.eraseDups = items := by
  induction items with
  | nil => rfl
  | cons head rest ih =>
      have fresh : head ∉ rest := (List.nodup_cons.mp distinct).1
      have kept : rest.filter (fun other => !other == head) = rest := by
        rw [List.filter_eq_self]
        intro other member
        have differ : other ≠ head := fun same => fresh (same ▸ member)
        simpa using differ
      rw [List.eraseDups_cons, kept, ih (List.nodup_cons.mp distinct).2]

/-- First occurrences are pairwise distinct. -/
theorem nodup_eraseDups (items : List α) : items.eraseDups.Nodup := by
  induction items using filterInduction with
  | nil => exact List.nodup_nil
  | cons head rest ih =>
      rw [List.eraseDups_cons, List.nodup_cons]
      refine ⟨?_, ih _⟩
      simp [List.mem_eraseDups]

/-- A further item is kept unless it has occurred. -/
theorem eraseDups_concat (items : List α) (last : α) :
    (items ++ [last]).eraseDups =
      if last ∈ items then items.eraseDups else items.eraseDups ++ [last] := by
  rw [List.eraseDups_append]
  by_cases again : last ∈ items
  · simp [List.removeAll, again]
  · simp [List.removeAll, again, List.eraseDups_cons]

/-- Whether an item is kept depends on the item alone, so filtering may come first or last. -/
theorem eraseDups_filter (keep : α → Bool) (items : List α) :
    (items.filter keep).eraseDups = items.eraseDups.filter keep := by
  induction items using filterInduction with
  | nil => rfl
  | cons head rest ih =>
      have tail := ih fun other => !other == head
      have commuted : (rest.filter keep).filter (fun other => !other == head) =
          (rest.filter fun other => !other == head).filter keep := by
        simp only [List.filter_filter, Bool.and_comm]
      by_cases kept : keep head = true
      · rw [List.filter_cons_of_pos kept, List.eraseDups_cons, List.eraseDups_cons,
          List.filter_cons_of_pos kept, commuted, tail]
      · rw [List.filter_cons_of_neg kept, List.eraseDups_cons, List.filter_cons_of_neg kept, ← tail,
          ← commuted]
        have absent : (rest.filter keep).filter (fun other => !other == head) =
            rest.filter keep := by
          rw [List.filter_eq_self]
          intro other member
          have otherKept := (List.mem_filter.mp member).2
          have differ : other ≠ head := fun same => kept (same ▸ otherKept)
          simpa using differ
        rw [absent]

/-- Dropping repetitions from a front part changes no first occurrence. -/
theorem eraseDups_eraseDups_append (front back : List α) :
    (front.eraseDups ++ back).eraseDups = (front ++ back).eraseDups := by
  have sameItems : back.removeAll front.eraseDups = back.removeAll front := by
    simp only [List.removeAll]
    apply List.filter_congr
    intro item _
    simp [List.mem_eraseDups]
  rw [List.eraseDups_append, List.eraseDups_append, sameItems,
    eraseDups_of_nodup (nodup_eraseDups front)]

/-- Dropping repetitions from a back part changes no first occurrence. -/
theorem eraseDups_append_eraseDups (front back : List α) :
    (front ++ back.eraseDups).eraseDups = (front ++ back).eraseDups := by
  have distinct : (back.eraseDups.removeAll front).eraseDups = back.eraseDups.removeAll front :=
    eraseDups_of_nodup ((nodup_eraseDups back).filter _)
  rw [List.eraseDups_append, List.eraseDups_append, distinct]
  simp only [List.removeAll, eraseDups_filter]

/-- Items that have all occurred before add nothing. -/
theorem eraseDups_append_of_subset {front back : List α} (occurred : back ⊆ front) :
    (front ++ back).eraseDups = front.eraseDups := by
  have nothing : back.removeAll front = [] := by
    rw [List.removeAll, List.filter_eq_nil_iff]
    intro item member
    simpa using occurred member
  rw [List.eraseDups_append, nothing, List.eraseDups_nil, List.append_nil]

/-- Dropping repetitions within the parts of a list changes no first occurrence. -/
theorem eraseDups_flatMap_eraseDups (parts : List β) (part : β → List α) :
    (parts.flatMap fun item => (part item).eraseDups).eraseDups =
      (parts.flatMap part).eraseDups := by
  induction parts with
  | nil => rfl
  | cons head rest ih =>
      rw [List.flatMap_cons, List.flatMap_cons, eraseDups_eraseDups_append,
        ← eraseDups_append_eraseDups, ih, eraseDups_append_eraseDups]

/-- What counts as a repetition matters for the items of the list only. -/
theorem eraseDupsBy_congr {same other : β → β → Bool} {items : List β}
    (agree : ∀ first ∈ items, ∀ second ∈ items, same first second = other first second) :
    items.eraseDupsBy same = items.eraseDupsBy other := by
  induction items using filterInduction with
  | nil => rfl
  | cons head rest ih =>
      have kept : (rest.filter fun item => same item head = false) =
          rest.filter fun item => other item head = false := by
        apply List.filter_congr
        intro item member
        rw [agree item (List.mem_cons_of_mem _ member) head List.mem_cons_self]
      rw [List.eraseDupsBy_cons, List.eraseDupsBy_cons, kept]
      congr 1
      apply ih
      intro first firstMember second secondMember
      exact agree first (List.mem_cons_of_mem _ (List.mem_filter.mp firstMember).1) second
        (List.mem_cons_of_mem _ (List.mem_filter.mp secondMember).1)

/-- Dropping repetitions adds no item. -/
theorem mem_of_mem_eraseDupsBy {same : β → β → Bool} {items : List β} {item : β}
    (member : item ∈ items.eraseDupsBy same) : item ∈ items := by
  induction items using filterInduction with
  | nil => exact member
  | cons head rest ih =>
      rw [List.eraseDupsBy_cons, List.mem_cons] at member
      rcases member with rfl | later
      · exact List.mem_cons_self
      · exact List.mem_cons_of_mem _ (List.mem_filter.mp (ih _ later)).1

/-- Dropping the items with a repeated key drops the repetitions among the keys. -/
theorem map_eraseDupsBy (key : β → α) (items : List β) :
    (items.eraseDupsBy fun item other => key item == key other).map key =
      (items.map key).eraseDups := by
  induction items using filterInduction with
  | nil => rfl
  | cons head rest ih =>
      have kept : (rest.map key).filter (fun other => !other == key head) =
          (rest.filter fun item => (key item == key head) = false).map key := by
        rw [List.filter_map]
        congr 2
        funext item
        show (!(key item == key head)) = decide ((key item == key head) = false)
        cases key item == key head <;> rfl
      rw [List.eraseDupsBy_cons, List.map_cons, ih, List.map_cons, List.eraseDups_cons, kept]

end DocQuery.FirstOccurrences
