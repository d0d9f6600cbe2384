import DocQuery.Proofs.Maps.Indexed
import DocQuery.Store.Operation

/-!
# Searches in the language of the store

Nothing of a query is lost in its JSON form but clauses without queries, which do not appear
in it. `Query.pruned` is the query without them, at every depth; two queries have the same
form exactly if they are the same in this sense. Nothing of a search is lost in its body
either, if its aggregations are named after what they compute:
`Search.renderings_lose_nothing`.

Both the form of a query and the pruned query are, level by level, lists of clauses of
which the empty ones are dropped and the others are changed one by one (`clausesJson_eq`,
`prunedClauses_eq`). What goes through all levels goes by `clauseInduction`.
-/

namespace DocQuery

/-- Operators have names of their own. -/
theorem RangeOp.name_injective : Function.Injective RangeOp.name := by
  intro op other same
  cases op <;> cases other <;> simp_all [name]

/-- Clauses have names of their own. -/
theorem Clause.name_injective : Function.Injective Clause.name := by
  intro clause other same
  cases clause <;> cases other <;> simp_all [name]

/-- A range is known by its JSON form: the field is the only key in it, and the bounds stand
behind their operators, in order. -/
theorem Range.toJson_injective : Function.Injective Range.toJson := by
  rintro ⟨field, bounds⟩ ⟨other, otherBounds⟩ same
  simp only [toJson, Json.object.injEq, List.cons.injEq, Prod.mk.injEq, and_true] at same
  obtain ⟨rfl, sameBounds⟩ := same
  have named : Function.Injective fun bound : RangeOp × Json => (bound.1.name, bound.2) := by
    rintro ⟨op, value⟩ ⟨otherOp, otherValue⟩ equal
    obtain ⟨names, values⟩ := Prod.mk.inj equal
    exact Prod.ext (RangeOp.name_injective names) values
  rw [OrderedMap.ext (List.map_injective_iff.mpr named sameBounds)]

namespace Query

/-- What holds of ranges, and of combined queries whenever it holds of the queries that are
combined, holds of all queries. -/
@[elab_as_elim]
theorem clauseInduction {motive : Query → Prop} (range : ∀ bounds, motive (.range bounds))
    (bool : ∀ clauses : Clauses, (∀ entry ∈ clauses, ∀ query ∈ entry.2, motive query) →
      motive (.bool clauses))
    (query : Query) : motive query := by
  match query with
  | .range bounds => exact range bounds
  | .bool clauses => exact bool clauses fun entry listed query under =>
      clauseInduction range bool query
termination_by sizeOf query
decreasing_by
  have inClause := List.sizeOf_lt_of_mem under
  have inQuery := List.sizeOf_lt_of_mem listed
  obtain ⟨clause, queries⟩ := entry
  simp only [Query.bool.sizeOf_spec, Prod.mk.sizeOf_spec] at inClause inQuery ⊢
  omega

/-- A query in which no clause, at any depth, is without queries. -/
inductive Filled : Query → Prop where
  | range (bounds : Range) : Filled (.range bounds)
  | bool {clauses : Clauses} (inhabited : ∀ entry ∈ clauses, entry.2 ≠ [])
      (inside : ∀ entry ∈ clauses, ∀ query ∈ entry.2, Filled query) : Filled (.bool clauses)

mutual

/-- The query without the clauses that hold no queries, at every depth. -/
def pruned : Query → Query
  | .bool clauses => .bool (prunedClauses clauses)
  | .range bounds => .range bounds

/-- The clauses that hold queries, each with its list of pruned queries. -/
def prunedClauses : List (Clause × List Query) → List (Clause × List Query)
  | [] => []
  | (_, []) :: rest => prunedClauses rest
  | (clause, query :: queries) :: rest =>
    (clause, query.pruned :: prunedQueries queries) :: prunedClauses rest

/-- Pruned queries one after another. -/
def prunedQueries : List Query → List Query
  | [] => []
  | query :: queries => query.pruned :: prunedQueries queries

end

/-- Queries are written one by one. -/
theorem queriesJson_eq_map (queries : List Query) : queriesJson queries = queries.map toJson := by
  induction queries with
  | nil => rfl
  | cons head rest ih => rw [queriesJson, ih, List.map_cons]

/-- Queries are pruned one by one. -/
theorem prunedQueries_eq_map (queries : List Query) :
    prunedQueries queries = queries.map pruned := by
  induction queries with
  | nil => rfl
  | cons head rest ih => rw [prunedQueries, ih, List.map_cons]

/-- Of the clauses that hold queries each is written under its name. -/
theorem clausesJson_eq (clauses : Clauses) :
    clausesJson clauses = (clauses.filter fun entry => !entry.2.isEmpty).map fun entry =>
      (entry.1.name, .array (entry.2.map toJson)) := by
  induction clauses with
  | nil => rfl
  | cons head rest ih =>
      obtain ⟨clause, queries⟩ := head
      cases queries with
      | nil => exact ih
      | cons query queries => rw [clausesJson, ih, queriesJson_eq_map]; rfl

/-- The clauses that hold queries are kept, each with its queries pruned. -/
theorem prunedClauses_eq (clauses : Clauses) :
    prunedClauses clauses = (clauses.filter fun entry => !entry.2.isEmpty).map fun entry =>
      (entry.1, entry.2.map pruned) := by
  induction clauses with
  | nil => rfl
  | cons head rest ih =>
      obtain ⟨clause, queries⟩ := head
      cases queries with
      | nil => exact ih
      | cons query queries => rw [prunedClauses, ih, prunedQueries_eq_map]; rfl

/-- If every clause holds queries, all are kept. -/
theorem filter_inhabited {clauses : Clauses} (inhabited : ∀ entry ∈ clauses, entry.2 ≠ []) :
    (clauses.filter fun entry => !entry.2.isEmpty) = clauses := by
  rw [List.filter_eq_self]
  intro entry member
  rw [List.isEmpty_eq_false_iff.mpr (inhabited entry member)]
  rfl

/-- A pruned clause holds queries. -/
theorem inhabited_of_mem_prunedClauses {clauses : Clauses} {entry : Clause × List Query}
    (member : entry ∈ prunedClauses clauses) : entry.2 ≠ [] := by
  rw [prunedClauses_eq] at member
  obtain ⟨original, kept, rfl⟩ := List.mem_map.mp member
  have inhabited := (List.mem_filter.mp kept).2
  simpa using inhabited

/-- Nothing that is pruned appears in the JSON form. -/
theorem toJson_pruned (query : Query) : query.pruned.toJson = query.toJson := by
  induction query using clauseInduction with
  | range bounds => rfl
  | bool clauses ih =>
      have sameClauses : clausesJson (prunedClauses clauses) = clausesJson clauses := by
        rw [clausesJson_eq, clausesJson_eq,
          filter_inhabited fun _ => inhabited_of_mem_prunedClauses, prunedClauses_eq, List.map_map]
        apply List.map_congr_left
        intro entry kept
        have listed := (List.mem_filter.mp kept).1
        have sameQueries : entry.2.map (toJson ∘ pruned) = entry.2.map toJson :=
          List.map_congr_left fun query under => ih entry listed query under
        simp only [Function.comp_apply, List.map_map, sameQueries]
      rw [pruned, toJson, toJson, sameClauses]

/-- No clause of a pruned query is without queries. -/
theorem filled_pruned (query : Query) : query.pruned.Filled := by
  induction query using clauseInduction with
  | range bounds => exact .range bounds
  | bool clauses ih =>
      refine .bool (fun _ => inhabited_of_mem_prunedClauses) ?_
      intro entry member query under
      rw [prunedClauses_eq] at member
      obtain ⟨original, kept, rfl⟩ := List.mem_map.mp member
      obtain ⟨unpruned, listed, rfl⟩ := List.mem_map.mp under
      exact ih original (List.mem_filter.mp kept).1 unpruned listed

/-- There is nothing to prune if no clause is without queries. -/
theorem Filled.pruned_eq {query : Query} (filled : query.Filled) : query.pruned = query := by
  induction filled with
  | range bounds => rfl
  | bool inhabited inside ih =>
      rw [pruned, prunedClauses_eq, filter_inhabited inhabited]
      congr 1
      refine (List.map_congr_left fun entry member => ?_).trans (List.map_id _)
      have same := List.map_congr_left (g := id) fun query under => ih entry member query under
      rw [same, List.map_id]
      rfl

/-- Queries in which no clause is without queries are known by their JSON forms. -/
theorem Filled.eq_of_toJson_eq {query other : Query} (filled : query.Filled)
    (otherFilled : other.Filled) (same : query.toJson = other.toJson) : query = other := by
  induction filled generalizing other with
  | range bounds =>
      cases otherFilled with
      | range otherBounds =>
          simp only [toJson, Json.object.injEq, List.cons.injEq, Prod.mk.injEq, and_true,
            true_and] at same
          rw [Range.toJson_injective same]
      | bool => simp [toJson] at same
  | @bool clauses inhabited inside ih =>
      cases otherFilled with
      | range => simp [toJson] at same
      | @bool others otherInhabited otherInside =>
          simp only [toJson, Json.object.injEq, List.cons.injEq, Prod.mk.injEq, and_true,
            true_and, clausesJson_eq, filter_inhabited inhabited,
            filter_inhabited otherInhabited] at same
          have sameClauses : clauses.map id = others.map id := by
            refine map_eq_map_of_determined same ?_
            rintro ⟨clause, queries⟩ member ⟨otherClause, otherQueries⟩ otherMember equal
            obtain ⟨names, forms⟩ := Prod.mk.inj equal
            have sameQueries : queries.map id = otherQueries.map id :=
              map_eq_map_of_determined (Json.array.inj forms) fun query under other otherUnder =>
                ih _ member query under (otherInside _ otherMember other otherUnder)
            rw [List.map_id, List.map_id] at sameQueries
            exact Prod.ext (Clause.name_injective names) sameQueries
          rw [List.map_id, List.map_id] at sameClauses
          rw [sameClauses]

/-- Queries have the same JSON form exactly if they are the same without the clauses that
hold no queries. -/
theorem toJson_eq_iff {query other : Query} :
    query.toJson = other.toJson ↔ query.pruned = other.pruned := by
  constructor
  · intro same
    refine (filled_pruned query).eq_of_toJson_eq (filled_pruned other) ?_
    rw [toJson_pruned, toJson_pruned, same]
  · intro same
    rw [← toJson_pruned query, same, toJson_pruned]

end Query

/-- A source filter is known by its JSON form. -/
theorem SourceFilter.toJson_injective : Function.Injective SourceFilter.toJson := by
  intro filter other same
  cases filter with
  | all => cases other <;> simp_all [toJson, Json.ofStrings]
  | disabled => cases other <;> simp_all [toJson, Json.ofStrings]
  | includes fields =>
      cases other with
      | all => simp [toJson, Json.ofStrings] at same
      | disabled => simp [toJson, Json.ofStrings] at same
      | includes others =>
          have texts : Function.Injective Json.string := fun _ _ equal => Json.string.inj equal
          rw [List.map_injective_iff.mpr texts (Json.array.inj same)]

namespace Search

/-- A search whose aggregations are named after their kinds and their fields, each with a
name of its own. -/
structure NamesAggregations (search : Search) : Prop where
  named : ∀ entry ∈ search.aggregations, entry = .of entry.kind entry.field
  distinct : (search.aggregations.map Aggregation.name).Nodup

variable {search other : Search}

/-- With names of their own, aggregations stand in the body one behind the other. -/
theorem NamesAggregations.entries_eq (names : search.NamesAggregations) :
    (OrderedMap.ofList (search.aggregations.map fun entry =>
        (entry.name, entry.toJson))).entries =
      search.aggregations.map fun entry => (entry.name, entry.toJson) := by
  have keys : ((search.aggregations.map fun entry =>
      (entry.name, entry.toJson)).map Prod.fst).Nodup := by
    rw [List.map_map]
    exact names.distinct
  exact congrArg OrderedMap.entries (OrderedMap.ofList_entries ⟨_, keys⟩)

/-- Aggregations are known by what stands in the body. -/
theorem NamesAggregations.eq_of_map_eq (names : search.NamesAggregations)
    (otherNames : other.NamesAggregations)
    (same : (search.aggregations.map fun entry => (entry.name, entry.toJson)) =
      other.aggregations.map fun entry => (entry.name, entry.toJson)) :
    search.aggregations = other.aggregations := by
  have sameEntries : search.aggregations.map id = other.aggregations.map id := by
    refine map_eq_map_of_determined same fun entry member otherEntry otherMember equal => ?_
    have sameName := (Prod.mk.inj equal).1
    rw [names.named entry member, otherNames.named otherEntry otherMember,
      Aggregation.of_name_inj] at sameName
    show entry = otherEntry
    rw [names.named entry member, otherNames.named otherEntry otherMember, sameName.1, sameName.2]
  rwa [List.map_id, List.map_id] at sameEntries

/-- The members of a body are known one by one. -/
theorem parts_of_body_eq (same : search.body = other.body) :
    search.query.toJson = other.query.toJson ∧ search.size = other.size ∧
      search.source.toJson = other.source.toJson ∧
      (if search.aggregations.isEmpty then [] else [("aggs", Json.ofFields (.ofList
        (search.aggregations.map fun entry => (entry.name, entry.toJson))))]) =
      (if other.aggregations.isEmpty then [] else [("aggs", Json.ofFields (.ofList
        (other.aggregations.map fun entry => (entry.name, entry.toJson))))]) := by
  simp only [body, Json.object.injEq, List.cons_append, List.nil_append, List.cons.injEq,
    Prod.mk.injEq, true_and, Json.ofNat, Json.number.injEq, Number.int.injEq,
    Int.natCast_inj] at same
  exact same

/-- Queries in which no clause is without queries are known by their JSON forms. Searches
with such queries, whose aggregations are named after their kinds and fields and have
distinct names, are known by their bodies, up to the collection that is searched. In general
the form of a query is that of the query without the clauses that hold no queries, at every
depth, which is the query itself if there are none; and queries have the same form exactly if
they are the same without these clauses. -/
theorem renderings_lose_nothing :
    (∀ query other : Query, query.Filled → other.Filled → query.toJson = other.toJson →
      query = other) ∧
    (∀ search other : Search, search.query.Filled → other.query.Filled →
      search.NamesAggregations → other.NamesAggregations → search.body = other.body →
        search.query = other.query ∧ search.size = other.size ∧
          search.source = other.source ∧ search.aggregations = other.aggregations) ∧
    (∀ query : Query, query.pruned.Filled ∧ query.toJson = query.pruned.toJson ∧
      (query.Filled → query.pruned = query)) ∧
    ∀ query other : Query, query.toJson = other.toJson ↔ query.pruned = other.pruned := by
  refine ⟨fun _ _ filled otherFilled => filled.eq_of_toJson_eq otherFilled, ?searches,
    fun query => ⟨query.filled_pruned, query.toJson_pruned.symm, Query.Filled.pruned_eq⟩,
    fun _ _ => Query.toJson_eq_iff⟩
  case searches =>
    intro search other filled otherFilled names otherNames same
    obtain ⟨sameQuery, sameSize, sameSource, sameEntries⟩ := parts_of_body_eq same
    refine ⟨filled.eq_of_toJson_eq otherFilled sameQuery, sameSize,
      SourceFilter.toJson_injective sameSource, names.eq_of_map_eq otherNames ?_⟩
    cases none : search.aggregations with
    | nil =>
        cases otherNone : other.aggregations with
        | nil => rfl
        | cons => simp [none, otherNone] at sameEntries
    | cons head rest =>
        cases otherNone : other.aggregations with
        | nil => simp [none, otherNone] at sameEntries
        | cons otherHead otherRest =>
            rw [← none, ← otherNone, ← names.entries_eq, ← otherNames.entries_eq]
            simp only [none, otherNone, List.isEmpty_cons, Bool.false_eq_true, if_false,
              List.cons.injEq, Prod.mk.injEq, and_true, true_and] at sameEntries ⊢
            exact Json.object.inj sameEntries

/-- A clause inside a clause makes a difference to the form of a query and the order of two
aggregations to the body of a search; a clause without queries makes none. -/
theorem renderings_of_nested_searches :
    let cheap : Query := .range ((Range.of "unit price").bound .lt (.ofNat 5))
    let nested : Query := .bool [(.should, [.bool [(.must, [cheap])], cheap])]
    let search := fun aggregations =>
      (⟨"orders", nested, 10, .includes ["unit price"], aggregations⟩ : Search)
    let least := Aggregation.of .min "unit price"
    let greatest := Aggregation.of .max "unit price"
    nested.toJson ≠ (Query.bool [(.should, [.bool [(.filter, [cheap])], cheap])]).toJson ∧
      (search [least, greatest]).body ≠ (search [greatest, least]).body ∧
      (Query.bool [(.mustNot, []),
          (.should, [.bool [(.must, [cheap]), (.filter, [])], cheap])]).toJson = nested.toJson := by
  intro cheap nested search least greatest
  obtain ⟨queries, searches, pruned, _⟩ := renderings_lose_nothing
  have filled : nested.Filled := (pruned nested).1
  have otherFilled : (Query.bool [(.should, [.bool [(.filter, [cheap])], cheap])]).Filled :=
    (pruned (.bool [(.should, [.bool [(.filter, [cheap])], cheap])])).1
  refine ⟨?_, ?_, (pruned _).2.1⟩
  · intro same
    have equal := queries _ _ filled otherFilled same
    simp [nested] at equal
  · intro same
    have named : (search [least, greatest]).NamesAggregations := ⟨by decide, by decide⟩
    have otherNamed : (search [greatest, least]).NamesAggregations := ⟨by decide, by decide⟩
    have equal := (searches _ _ filled filled named otherNamed same).2.2.2
    exact absurd equal (by decide)

end Search

end DocQuery
