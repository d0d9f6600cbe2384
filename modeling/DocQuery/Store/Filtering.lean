import DocQuery.Query.Basic

/-!
# The documents that a query selects

A range holds of a document if the document has a value for the field and the
value compares with every bound as its operator demands; values of different
sorts do not compare. Under `must` and `filter` every query has to hold, under
`must_not` none may, and of those under `should` one has to hold where neither
`must` nor `filter` demands anything.
-/

namespace DocQuery

/-- The order of two floating-point numbers, unless one is not a number. -/
def compareFloats (x y : Float) : Option Ordering :=
  if x < y then some .lt
  else if y < x then some .gt
  else if x == y then some .eq
  else none

/-- How a value compares with a bound of the same sort. -/
def Json.compare? : (value bound : Json) → Option Ordering
  | .number a, .number b => compareFloats a.toFloat b.toFloat
  | .string a, .string b => some (compare a b)
  | .bool a, .bool b => some (compare a b)
  | _, _ => none

/-- Whether an order between value and bound is what the operator demands. -/
def RangeOp.accepts (op : RangeOp) (order : Ordering) : Bool :=
  match op with
  | .lt => order == .lt
  | .lte => order != .gt
  | .gt => order == .gt
  | .gte => order != .lt

/-- Whether a value satisfies a bound. -/
def RangeOp.holds (op : RangeOp) (bound value : Json) : Bool :=
  match value.compare? bound with
  | none => false
  | some order => op.accepts order

/-- Whether a document satisfies every bound of a range. -/
def Range.holds (range : Range) (source : Fields) : Bool :=
  match source.find? range.field with
  | none => false
  | some value => range.bounds.entries.all fun bound => bound.1.holds bound.2 value

/-- The verdict of a combined query, given the verdicts of its parts. -/
def Clause.combine (verdicts : List (Clause × List Bool)) : Bool :=
  let under := fun clause => (Entries.find? clause verdicts).getD []
  (under .must).all id && (under .filter).all id && !(under .mustNot).any id &&
    (!(under .must).isEmpty || !(under .filter).isEmpty || (under .should).isEmpty ||
      (under .should).any id)

namespace Query

mutual

/-- Whether a query selects a document. -/
def holds (source : Fields) : Query → Bool
  | .bool clauses => Clause.combine (clauseVerdicts source clauses)
  | .range bounds => bounds.holds source

/-- Which queries hold, by clause. -/
def clauseVerdicts (source : Fields) : List (Clause × List Query) → List (Clause × List Bool)
  | [] => []
  | (clause, queries) :: rest =>
    (clause, queryVerdicts source queries) :: clauseVerdicts source rest

/-- Which queries of a list hold. -/
def queryVerdicts (source : Fields) : List Query → List Bool
  | [] => []
  | query :: queries => query.holds source :: queryVerdicts source queries

end

end Query

end DocQuery
