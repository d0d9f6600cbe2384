import DocQuery.Json.Basic

/-!
# Metric aggregations

Summary statistics that the store computes over one field of the documents that
a search selects. An entry of a search is named after its kind and its field.

Main statement: entries of different kinds or over different fields have
different names.
-/

namespace DocQuery

/-- A summary statistic. -/
inductive AggregationKind where
  | min
  | max
  | avg
  | sum
  | cardinality
  | percentiles
  deriving DecidableEq, Repr

namespace AggregationKind

/-- Every kind. -/
def all : List AggregationKind := [.min, .max, .avg, .sum, .cardinality, .percentiles]

/-- The name of a kind in queries. -/
def name : AggregationKind → String
  | .min => "min"
  | .max => "max"
  | .avg => "avg"
  | .sum => "sum"
  | .cardinality => "cardinality"
  | .percentiles => "percentiles"

/-- The kind with a given name. -/
def ofName? (name : String) : Option AggregationKind := all.find? fun kind => kind.name == name

end AggregationKind

/-- An entry of a search. -/
structure Aggregation where
  /-- The key of the entry in the request and in the response. -/
  name : String
  kind : AggregationKind
  /-- The name of the field in the store. -/
  field : String
  deriving DecidableEq, Repr

namespace Aggregation

/-- The entry for a kind and a field. -/
def of (kind : AggregationKind) (field : String) : Aggregation :=
  ⟨kind.name ++ "_" ++ field, kind, field⟩

/-- An entry in the query language of the store. Percentiles are asked for as a
list, so that reading them does not depend on how keys are written. -/
def toJson (aggregation : Aggregation) : Json :=
  let field := ("field", Json.string aggregation.field)
  let settings :=
    if aggregation.kind = .percentiles then [field, ("keyed", .bool false)] else [field]
  .object [(aggregation.kind.name, .object settings)]

/-- The name of an entry determines its kind and its field. -/
theorem of_name_inj {kind other : AggregationKind} {field otherField : String} :
    (of kind field).name = (of other otherField).name ↔ kind = other ∧ field = otherField := by
  simp only [of]
  constructor
  · intro names
    have chars := congrArg String.toList names
    cases kind <;> cases other <;>
      simp [AggregationKind.name, String.toList_append, String.toList_inj] at chars ⊢
    all_goals exact chars
  · rintro ⟨rfl, rfl⟩
    rfl

end Aggregation

end DocQuery
