import DocQuery.Json.Basic

/-!
# Range queries

A range query compares one field of a document with bounds. Every bound has an
operator of its own, and all of them must hold.
-/

namespace DocQuery

/-- A comparison with a bound. -/
inductive RangeOp where
  | lt
  | lte
  | gt
  | gte
  deriving DecidableEq, Repr

namespace RangeOp

/-- Every operator. -/
def all : List RangeOp := [.lt, .lte, .gt, .gte]

/-- The name of an operator in queries. -/
def name : RangeOp → String
  | .lt => "lt"
  | .lte => "lte"
  | .gt => "gt"
  | .gte => "gte"

/-- The operator with a given name. -/
def ofName? (name : String) : Option RangeOp := all.find? fun op => op.name == name

end RangeOp

/-- Bounds on one field of a document. -/
structure Range where
  /-- The name of the field in the store. -/
  field : String
  bounds : OrderedMap RangeOp Json
  deriving DecidableEq

namespace Range

/-- No bounds. -/
def of (field : String) : Range := ⟨field, .empty⟩

/-- Adds a bound; an operator that has one already takes the new one. -/
def bound (range : Range) (op : RangeOp) (value : Json) : Range :=
  { range with bounds := range.bounds.insert op value }

/-- Adds bounds one after another. -/
def boundAll (range : Range) (bounds : List (RangeOp × Json)) : Range :=
  bounds.foldl (fun range entry => range.bound entry.1 entry.2) range

/-- The bound of an operator. -/
def get? (range : Range) (op : RangeOp) : Option Json := range.bounds.find? op

/-- A range in the query language of the store. -/
def toJson (range : Range) : Json :=
  .object [(range.field, .object (range.bounds.entries.map fun bound => (bound.1.name, bound.2)))]

end Range

end DocQuery
