import DocQuery.Proofs.Request.Filters
import DocQuery.Store.Filtering

/-!
# What a filter means

A filter is made of terms: under a clause, a name with bounds on its values.
`FilterTerm.HoldsOn` says when a document satisfies a term, without a query. A
document is selected by the query that the filter becomes exactly if it satisfies
the terms as their clauses demand, as `Filter.toQuery_preserves_meaning` says.

For that, the verdict of the store on a combined query is first put in terms of the
queries under each clause (`Query.holds_bool_iff`), and what is found under a clause of
the translated filter in terms of its terms (`Filter.under_toQuery`).
-/

namespace DocQuery

/-- The orders between value and bound that an operator demands. -/
def RangeOp.Demands : RangeOp → Ordering → Prop
  | .lt, order => order = .lt
  | .lte, order => order = .lt ∨ order = .eq
  | .gt, order => order = .gt
  | .gte, order => order = .gt ∨ order = .eq

/-- The store accepts the orders that are demanded. -/
theorem RangeOp.accepts_iff (op : RangeOp) (order : Ordering) :
    op.accepts order = true ↔ op.Demands order := by
  cases op <;> cases order <;> simp [accepts, Demands]

/-- A value keeps a bound exactly if the two compare, in an order that is demanded. -/
theorem RangeOp.holds_iff {op : RangeOp} {bound value : Json} :
    op.holds bound value = true ↔
      ∃ order, value.compare? bound = some order ∧ op.Demands order := by
  rw [holds]
  cases value.compare? bound with
  | none => simp
  | some order => simp [accepts_iff]

/-- A name in a filter with bounds on the values that it may have. -/
structure FilterTerm where
  name : String
  bounds : OrderedMap RangeOp Json

namespace FilterTerm

/-- A document satisfies a term if it has a value under the store name that the name
stands for, and the value keeps every bound. A name that stands for none is itself
the store name. -/
def HoldsOn (registry : Registry) (source : Fields) (term : FilterTerm) : Prop :=
  ∃ value, source.find? ((registry.toStoreName? term.name).getD term.name) = some value ∧
    ∀ op bound, term.bounds.find? op = some bound →
      ∃ order, value.compare? bound = some order ∧ op.Demands order

/-- The range that a term becomes: all its bounds, on the store field. -/
def range (registry : Registry) (term : FilterTerm) : Range :=
  ⟨(registry.toStoreName? term.name).getD term.name, term.bounds⟩

/-- The store selects by a range the documents that satisfy its term. -/
theorem holds_range_iff {registry : Registry} {source : Fields} {term : FilterTerm} :
    (term.range registry).holds source = true ↔ term.HoldsOn registry source := by
  rw [Range.holds, HoldsOn, range]
  cases source.find? ((registry.toStoreName? term.name).getD term.name) with
  | none => simp
  | some value =>
      simp only [List.all_eq_true, RangeOp.holds_iff, Option.some.injEq, exists_eq_left']
      constructor
      · intro keeps op bound found
        exact keeps (op, bound) (OrderedMap.find?_eq_some_iff_mem.mp found)
      · rintro keeps ⟨op, bound⟩ member
        exact keeps op bound (OrderedMap.find?_eq_some_iff_mem.mpr member)

end FilterTerm

namespace Query

variable {source : Fields}

/-- Queries are judged one by one. -/
theorem queryVerdicts_eq_map (queries : List Query) :
    queryVerdicts source queries = queries.map (holds source) := by
  induction queries with
  | nil => rfl
  | cons head rest ih => rw [queryVerdicts, ih, List.map_cons]

/-- The verdicts of a clause are those of the queries under it. -/
theorem getD_find?_clauseVerdicts (clauses : Clauses) (clause : Clause) :
    (Entries.find? clause (clauseVerdicts source clauses)).getD [] =
      (clauses.under clause).map (holds source) := by
  rw [Clauses.under]
  induction clauses with
  | nil => rfl
  | cons head rest ih =>
      obtain ⟨other, queries⟩ := head
      rw [clauseVerdicts, Entries.find?, Entries.find?]
      split
      · exact queryVerdicts_eq_map queries
      · exact ih

/-- A combined query selects a document if every query under `must` and `filter` does and
none under `must_not`, and one under `should` where only that clause demands something. -/
theorem holds_bool_iff (clauses : Clauses) :
    (Query.bool clauses).holds source = true ↔
      (∀ query ∈ clauses.under .must ++ clauses.under .filter, query.holds source = true) ∧
      (∀ query ∈ clauses.under .mustNot, ¬ query.holds source = true) ∧
      (clauses.under .must ++ clauses.under .filter ≠ [] ∨ clauses.under .should = [] ∨
        ∃ query ∈ clauses.under .should, query.holds source = true) := by
  have all : ∀ clause, (((clauses.under clause).map (holds source)).all id = true ↔
      ∀ query ∈ clauses.under clause, query.holds source = true) := by simp
  have any : ∀ clause, (((clauses.under clause).map (holds source)).any id = true ↔
      ∃ query ∈ clauses.under clause, query.holds source = true) := by simp
  have inhabited : ∀ clause, ((!(clauses.under clause).isEmpty) = true ↔
      clauses.under clause ≠ []) := by simp
  have demanding : clauses.under .must ++ clauses.under .filter ≠ [] ↔
      clauses.under .must ≠ [] ∨ clauses.under .filter ≠ [] := by
    rw [ne_eq, List.append_eq_nil_iff, not_and_or]
  have none : (!((clauses.under .mustNot).map (holds source)).any id) = true ↔
      ∀ query ∈ clauses.under .mustNot, ¬ query.holds source = true := by simp
  have both : (∀ query ∈ clauses.under .must ++ clauses.under .filter,
        query.holds source = true) ↔
      (∀ query ∈ clauses.under .must, query.holds source = true) ∧
        ∀ query ∈ clauses.under .filter, query.holds source = true := List.forall_mem_append
  simp only [holds, Clause.combine, getD_find?_clauseVerdicts, Bool.and_eq_true,
    Bool.or_eq_true, all, any, inhabited, none, List.isEmpty_map, List.isEmpty_iff]
  rw [both, demanding, and_assoc, or_assoc]

end Query

namespace Clauses

/-- Every clause is listed once, and only for the sake of a query under it. -/
structure Tight (clauses : Clauses) : Prop where
  distinct : (clauses.map Prod.fst).Nodup
  inhabited : ∀ entry ∈ clauses, entry.2 ≠ []

theorem Tight.nil : Clauses.Tight [] where
  distinct := List.nodup_nil
  inhabited := by simp

/-- Pushing a query lists its clause. -/
theorem Tight.push {clauses : Clauses} (tight : clauses.Tight) (clause : Clause) (query : Query) :
    (clauses.push clause query).Tight where
  distinct := Entries.nodup_put tight.distinct
  inhabited := by
    intro entry member
    rcases Entries.mem_of_mem_put member with rfl | before
    · simp
    · exact tight.inhabited entry before

/-- Pushing queries one after another lists their clauses. -/
theorem Tight.pushAll {clauses : Clauses} (tight : clauses.Tight)
    (queries : List (Clause × Query)) : (clauses.pushAll queries).Tight := by
  induction queries generalizing clauses with
  | nil => exact tight
  | cons head rest ih => exact ih (tight.push head.1 head.2)

end Clauses

namespace Filter

variable (registry : Registry) (filter : Filter)

/-- The terms under a clause: its names that have bounds, in the order of the filter. -/
def terms (clause : Clause) : List FilterTerm :=
  ((filter.find? clause).getD .empty).entries.filterMap fun entry =>
    entry.2.bounds.bind fun bounds =>
      if bounds.isEmpty then none else some ⟨entry.1, bounds⟩

/-- The terms under a clause are the names with at least one bound. -/
theorem mem_terms_iff {filter : Filter} {clause : Clause} {term : FilterTerm} :
    term ∈ filter.terms clause ↔
      ∃ conditions, filter.find? clause = some conditions ∧
        conditions.find? term.name = some ⟨some term.bounds⟩ ∧ term.bounds.isEmpty = false := by
  have listed : ∀ conditions : OrderedMap String Condition,
      (term ∈ conditions.entries.filterMap fun entry => entry.2.bounds.bind fun bounds =>
        if bounds.isEmpty then none else some (FilterTerm.mk entry.1 bounds)) ↔
      conditions.find? term.name = some ⟨some term.bounds⟩ ∧ term.bounds.isEmpty = false := by
    intro conditions
    rw [List.mem_filterMap, OrderedMap.find?_eq_some_iff_mem]
    constructor
    · rintro ⟨⟨name, ⟨given⟩⟩, member, demanded⟩
      obtain ⟨bounds, rfl, kept⟩ := Option.bind_eq_some_iff.mp demanded
      split at kept
      · cases kept
      · rename_i inhabited
        simp only [Option.some.injEq] at kept
        subst kept
        exact ⟨member, Bool.eq_false_iff.mpr inhabited⟩
    · rintro ⟨member, inhabited⟩
      exact ⟨_, member, by simp [inhabited]⟩
  rw [terms, listed]
  cases filter.find? clause with
  | none => simp [OrderedMap.find?_empty]
  | some conditions => simp

/-- Under a clause a name has one term at most. -/
theorem nodup_names_terms (clause : Clause) :
    ((filter.terms clause).map FilterTerm.name).Nodup := by
  refine List.Nodup.sublist ?_ ((filter.find? clause).getD .empty).distinct
  rw [terms]
  induction ((filter.find? clause).getD .empty).entries with
  | nil => exact List.nil_sublist _
  | cons head rest ih =>
      rw [List.filterMap_cons]
      split
      · exact ih.cons head.1
      · rename_i term demanded
        obtain ⟨bounds, _, kept⟩ := Option.bind_eq_some_iff.mp demanded
        split at kept
        · cases kept
        · simp only [Option.some.injEq] at kept
          subst kept
          exact ih.cons_cons head.1

/-- The ranges of a clause are those of its terms. -/
theorem ranges_of_clause (clause : Clause) :
    ((filter.ranges registry).filter fun entry => entry.1 = clause).map Prod.snd =
      (filter.terms clause).map (FilterTerm.range registry) := by
  let part := fun conditions : OrderedMap String Condition =>
    conditions.entries.filterMap fun entry => entry.2.range? registry entry.1
  have own : ∀ entry : Clause × OrderedMap String Condition,
      ((entry.2.entries.filterMap fun condition =>
          (condition.2.range? registry condition.1).map fun range => (entry.1, range)).filter
        fun range => range.1 = clause).map Prod.snd =
      if entry.1 = clause then part entry.2 else [] := by
    intro entry
    rw [List.filter_filterMap, List.map_filterMap]
    by_cases same : entry.1 = clause
    · rw [if_pos same]
      apply List.filterMap_congr
      intro condition _
      cases condition.2.range? registry condition.1 <;> simp [same]
    · rw [if_neg same, List.filterMap_eq_nil_iff]
      intro condition _
      cases condition.2.range? registry condition.1 <;> simp [same]
  have perTerm : ∀ conditions : OrderedMap String Condition,
      part conditions = (conditions.entries.filterMap fun entry =>
        entry.2.bounds.bind fun bounds =>
          if bounds.isEmpty then none else some (FilterTerm.mk entry.1 bounds)).map
            (FilterTerm.range registry) := by
    intro conditions
    rw [List.map_filterMap]
    apply List.filterMap_congr
    rintro ⟨name, ⟨bounds⟩⟩ _
    cases bounds with
    | none => rfl
    | some bounds =>
        cases inhabited : bounds.isEmpty with
        | true => simp [Condition.range?, inhabited]
        | false => simp [Condition.range?_of_bounds, inhabited, FilterTerm.range, Registry.storeName]
  calc ((filter.ranges registry).filter fun entry => entry.1 = clause).map Prod.snd
      = filter.entries.flatMap fun entry => if entry.1 = clause then part entry.2 else [] := by
        rw [ranges, List.filter_flatMap, List.map_flatMap]
        exact List.flatMap_congr fun entry _ => own entry
    _ = ((filter.find? clause).map part).getD [] := Entries.flatMap_of_key part filter.distinct
    _ = (filter.terms clause).map (FilterTerm.range registry) := by
        rw [terms]
        cases filter.find? clause with
        | none => rfl
        | some conditions => exact perTerm conditions

/-- What is found under a clause of the translated filter are the ranges of its terms. -/
theorem under_toQuery {clauses : Clauses}
    (translated : toQuery registry (some filter) = .bool clauses) (clause : Clause) :
    clauses.under clause =
      (filter.terms clause).map fun term => .range (term.range registry) := by
  have pushed : clauses = Clauses.pushAll [] ((filter.ranges registry).map
      fun entry => (entry.1, .range entry.2)) :=
    (Query.bool.inj translated).symm
  have keyed : ((filter.ranges registry).map fun entry => (entry.1, Query.range entry.2)).filter
        (fun entry => entry.1 = clause) =
      ((filter.ranges registry).filter fun entry => entry.1 = clause).map
        fun entry => (entry.1, .range entry.2) := by
    rw [List.filter_map]
    rfl
  have ranged : ((filter.ranges registry).filter fun entry => entry.1 = clause).map
        (fun entry => Query.range entry.2) =
      (filter.terms clause).map fun term => .range (term.range registry) := by
    have mapped := congrArg (List.map Query.range) (ranges_of_clause registry filter clause)
    rw [List.map_map, List.map_map] at mapped
    exact mapped
  rw [pushed, Clauses.under_pushAll, keyed, List.map_map]
  exact ranged

/-- The query that a filter becomes lists every clause once, and none in vain. -/
theorem tight_of_toQuery {registry : Registry} {filter : Option Filter} {clauses : Clauses}
    (translated : toQuery registry filter = .bool clauses) : clauses.Tight := by
  rw [← Query.bool.inj translated]
  exact Clauses.Tight.nil.pushAll _

/-- The query that a filter becomes selects the documents that satisfy its terms as their
clauses demand; terms under `should` count only where `must` and `filter` have none.
Without a filter every document is selected. The query has, under every clause, one
range for each term, in order and with all bounds, and nothing else. -/
theorem toQuery_preserves_meaning (source : Fields) :
    ((toQuery registry (some filter)).holds source = true ↔
      (∀ term ∈ filter.terms .must ++ filter.terms .filter, term.HoldsOn registry source) ∧
      (∀ term ∈ filter.terms .mustNot, ¬ term.HoldsOn registry source) ∧
      (filter.terms .must ++ filter.terms .filter ≠ [] ∨ filter.terms .should = [] ∨
        ∃ term ∈ filter.terms .should, term.HoldsOn registry source)) ∧
    (toQuery registry none).holds source = true ∧
    ∃ clauses : Clauses, toQuery registry (some filter) = .bool clauses ∧ clauses.Tight ∧
      ∀ clause, clauses.under clause =
          (filter.terms clause).map (fun term => .range (term.range registry)) ∧
        ((filter.terms clause).map FilterTerm.name).Nodup := by
  obtain ⟨clauses, translated⟩ :
      ∃ clauses : Clauses, toQuery registry (some filter) = .bool clauses := ⟨_, rfl⟩
  have under := under_toQuery registry filter translated
  refine ⟨?_, rfl, clauses, translated, tight_of_toQuery translated,
    fun clause => ⟨under clause, nodup_names_terms filter clause⟩⟩
  rw [translated, Query.holds_bool_iff]
  simp only [under, ← List.map_append, List.mem_map, forall_exists_index, and_imp,
    forall_apply_eq_imp_iff₂, exists_exists_and_eq_and, ne_eq, List.map_eq_nil_iff, Query.holds,
    FilterTerm.holds_range_iff]

end Filter

end DocQuery
