import DocQuery.Proofs.Maps.Bindings
import DocQuery.Request.Filter

/-!
# What translated filters contain

A filter becomes one combined query. `mem_under_toQuery_iff` says which ranges are
found under a clause of it: one for every condition under that clause that has
bounds.
-/

namespace DocQuery

namespace Range

/-- Bounds that are added are inserted after the bounds that are there. -/
theorem boundAll_eq (range : Range) (bounds : List (RangeOp × Json)) :
    range.boundAll bounds = ⟨range.field, range.bounds.insertAll bounds⟩ := by
  induction bounds generalizing range with
  | nil => rfl
  | cons head rest ih => exact ih (range.bound head.1 head.2)

/-- Adding the bounds of a map one by one keeps all of them, in order. -/
theorem boundAll_of (field : String) (bounds : OrderedMap RangeOp Json) :
    (Range.of field).boundAll bounds.entries = ⟨field, bounds⟩ := by
  rw [boundAll_eq]
  exact congrArg (Range.mk field) (OrderedMap.ofList_entries bounds)

end Range

/-- A condition with bounds becomes a range with the same bounds, on the store field. -/
theorem Condition.range?_of_bounds {registry : Registry} {field : String}
    {bounds : OrderedMap RangeOp Json} (inhabited : bounds.isEmpty = false) :
    Condition.range? registry field ⟨some bounds⟩ = some ⟨registry.storeName field, bounds⟩ := by
  simp [range?, inhabited, Range.boundAll_of]

namespace Clauses

/-- Pushed queries come under their clauses, behind what is there. -/
theorem under_pushAll (clauses : Clauses) (queries : List (Clause × Query)) (clause : Clause) :
    (clauses.pushAll queries).under clause =
      clauses.under clause ++ (queries.filter fun entry => entry.1 = clause).map Prod.snd := by
  induction queries generalizing clauses with
  | nil => simp [pushAll]
  | cons head rest ih =>
      have tail := ih (clauses.push head.1 head.2)
      simp only [pushAll, List.foldl_cons] at tail ⊢
      rw [tail, under_push]
      by_cases same : head.1 = clause
      · simp [same]
      · simp [same]

end Clauses

namespace Filter

variable {registry : Registry} {filter : Filter} {clause : Clause} {range : Range}

/-- The ranges of a filter are those of its conditions. -/
theorem mem_ranges_iff :
    (clause, range) ∈ filter.ranges registry ↔
      ∃ conditions name condition, filter.find? clause = some conditions ∧
        conditions.find? name = some condition ∧
          condition.range? registry name = some range := by
  simp only [ranges, List.mem_flatMap, List.mem_filterMap, Option.map_eq_some_iff, Prod.exists,
    OrderedMap.find?_eq_some_iff_mem, Prod.mk.injEq]
  constructor
  · rintro ⟨_, conditions, listed, name, condition, demanded, _, becomes, rfl, rfl⟩
    exact ⟨conditions, name, condition, listed, demanded, becomes⟩
  · rintro ⟨conditions, name, condition, listed, demanded, becomes⟩
    exact ⟨clause, conditions, listed, name, condition, demanded, range, becomes, rfl, rfl⟩

/-- Under a clause of the query are the ranges of the conditions under that clause. -/
theorem mem_under_toQuery_iff {clauses : Clauses}
    (translated : toQuery registry (some filter) = .bool clauses) :
    .range range ∈ clauses.under clause ↔
      ∃ conditions name condition, filter.find? clause = some conditions ∧
        conditions.find? name = some condition ∧
          condition.range? registry name = some range := by
  have pushed : clauses = Clauses.pushAll [] ((filter.ranges registry).map
      fun entry => (entry.1, .range entry.2)) :=
    (Query.bool.inj translated).symm
  rw [← mem_ranges_iff, pushed, Clauses.under_pushAll]
  simp only [Clauses.under, Entries.find?, Option.getD_none, List.nil_append, List.mem_map,
    List.mem_filter, decide_eq_true_eq, Prod.exists, Prod.mk.injEq]
  constructor
  · rintro ⟨_, _, ⟨⟨_, _, member, rfl, rfl⟩, rfl⟩, same⟩
    rw [← Query.range.inj same]
    exact member
  · intro member
    exact ⟨clause, .range range, ⟨⟨clause, range, member, rfl, rfl⟩, rfl⟩, rfl⟩

end Filter

end DocQuery
