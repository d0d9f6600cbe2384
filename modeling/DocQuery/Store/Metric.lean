import DocQuery.Json.Printer
import DocQuery.Query.Aggregation

/-!
# Computing metrics

The result of an aggregation over the values of one field. All kinds but
cardinality look at the numbers only. An empty sum is the neutral element
`-0.0`, and the other numeric results over nothing are `null`.
-/

namespace DocQuery.Metric

/-- The percents that a percentile aggregation reports. -/
def percents : List Float := [1, 5, 25, 50, 75, 95, 99]

/-- The sum, from left to right. -/
def sum (numbers : List Float) : Float := numbers.foldl (· + ·) (-0.0)

/-- The smallest number. -/
def least? : List Float → Option Float
  | [] => none
  | x :: rest => some (rest.foldl (fun least y => if y < least then y else least) x)

/-- The greatest number. -/
def greatest? : List Float → Option Float
  | [] => none
  | x :: rest => some (rest.foldl (fun greatest y => if greatest < y then y else greatest) x)

/-- The mean. -/
def mean? (numbers : List Float) : Option Float :=
  if numbers.isEmpty then none else some (sum numbers / Float.ofNat numbers.length)

/-- The number at a percentile, by nearest rank, of numbers in ascending order. -/
def nearestRank? (sorted : List Float) (percent : Float) : Option Float :=
  let rank := (percent / 100 * Float.ofNat sorted.length).ceil.toUInt64.toNat
  sorted[max rank 1 - 1]?

/-- A number, or `null` for none. -/
def optional (number : Option Float) : Json := (number.map Json.ofFloat).getD .null

/-- A result with a single value. -/
def single (value : Json) : Json := .object [("value", value)]

/-- The result of an aggregation over the values of its field. -/
def compute (kind : AggregationKind) (values : List Json) : Json :=
  let numbers := values.filterMap Json.asFloat?
  match kind with
  | .min => single (optional (least? numbers))
  | .max => single (optional (greatest? numbers))
  | .sum => single (.ofFloat (sum numbers))
  | .avg => single (optional (mean? numbers))
  | .cardinality => single (.ofNat (values.map Json.compact).eraseDups.length)
  | .percentiles =>
    let sorted := numbers.mergeSort fun x y => decide (x ≤ y)
    .object [("values", .array (percents.map fun percent =>
      .object [("key", .ofFloat percent), ("value", optional (nearestRank? sorted percent))]))]

end DocQuery.Metric
