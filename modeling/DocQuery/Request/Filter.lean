import DocQuery.Names.Registry
import DocQuery.Request.Arguments

/-!
# From filters to native queries

Each condition with at least one bound becomes a range under its clause, on the
store field that the name in the condition stands for. Conditions without bounds
demand nothing and become nothing.
-/

namespace DocQuery

/-- The range that a condition becomes. -/
def Condition.range? (registry : Registry) (field : String) (condition : Condition) :
    Option Range :=
  match condition.bounds with
  | some bounds =>
    if bounds.isEmpty then none
    else some ((Range.of (registry.storeName field)).boundAll bounds.entries)
  | none => none

namespace Filter

/-- The ranges that a filter becomes, with their clauses. -/
def ranges (registry : Registry) (filter : Filter) : List (Clause × Range) :=
  filter.entries.flatMap fun (clause, conditions) =>
    conditions.entries.filterMap fun (field, condition) =>
      (condition.range? registry field).map fun range => (clause, range)

/-- The native query of an optional filter; no filter selects every document. -/
def toQuery (registry : Registry) (filter : Option Filter) : Query :=
  .bool (Clauses.pushAll [] (((filter.getD .empty).ranges registry).map
    fun (clause, range) => (clause, .range range)))

end Filter

end DocQuery
