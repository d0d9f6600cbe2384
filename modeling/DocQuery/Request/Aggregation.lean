import DocQuery.Calendar.Printer
import DocQuery.Calendar.Reader
import DocQuery.Decimal.Reader
import DocQuery.Log
import DocQuery.Query.Aggregation
import DocQuery.Schema.Target
import DocQuery.Selection

/-!
# Aggregations: from selections to entries, from results to values

A selection names kinds, and fields below each kind. All of them are computed in
one search, with an entry for every kind and field. The result gives by kind and
by field what the store computed, in the type that the schema promises; entries
that are missing or malformed are left out.
-/

namespace DocQuery

/-- The fields that are selected under each kind. -/
abbrev Requested := List (AggregationKind × List DocumentField)

namespace Requested

/-- Keeps the first of several fields with one store name. -/
def distinctFields (fields : List DocumentField) : List DocumentField :=
  fields.eraseDupsBy fun field other => field.storeName == other.storeName

/-- The fields of the collection that are selected under a kind. -/
def fieldsOf (target : Target) (selection : SelectionSet) : List DocumentField :=
  distinctFields (selection.names.filterMap target.field?)

/-- Adds a selected kind with the fields below it. -/
def add (target : Target) (requested : Requested) (selection : Selection) : Requested :=
  match AggregationKind.ofName? selection.name with
  | none => requested
  | some kind =>
    Entries.put kind
      ((Entries.find? kind requested).getD [] ++ fieldsOf target selection.children) requested

/-- What a selection asks for; names of neither kinds nor fields ask for nothing. -/
def ofSelection (target : Target) (selection : SelectionSet) : Requested :=
  selection.foldl (add target) []

/-- The entries of the search. -/
def entries (requested : Requested) : List Aggregation :=
  requested.flatMap fun (kind, fields) => fields.map fun field => .of kind field.storeName

end Requested

namespace Aggregation

/-- What the store computed for an entry. -/
inductive Outcome where
  | computed (value : Json)
  /-- There is no entry of that name. -/
  | missing
  /-- The entry is not of the expected shape. -/
  | malformed

/-- The whole part of a number, in a signed 64-bit word. -/
def wholePart (x : Float) : Int := x.toInt64.toInt

/-- A single number in the type of its field; `null`, over no documents, stays. -/
def metric? (entry : List (String × Json)) (scalar : Scalar) : Option Json := do
  let value ← Entries.find? "value" entry
  if value.isNull then some .null
  else
    let number ← value.asFloat?
    match scalar with
    | .dateTime =>
      let written := (Entries.find? "value_as_string" entry).bind Instant.ofJson?
      let instant ← written <|> Instant.ofMilliseconds? (wholePart number)
      some (.string instant.text)
    | .int => some (if number.isFinite then .ofInt (wholePart number) else .ofFloat number)
    | _ => some (.ofFloat number)

/-- A count: a whole number that is not negative. -/
def count? (value : Json) : Option Json :=
  match value.asNat? with
  | some n => some (.ofNat n)
  | none => do
    let number ← value.asFloat?
    if number.floor == number && number ≥ 0 then some (.ofNat number.toUInt64.toNat) else none

/-- A percentile with its value. -/
def pair (key : Float) (value : Option Json) : Json :=
  .object [("key", .ofFloat key),
    ("value", ((value.bind Json.asFloat?).map Json.ofFloat).getD .null)]

/-- Percentiles with their values, from a list of pairs or from an object. -/
def percentiles? : Json → Option Json
  | .array items => do
    let pairs ← items.mapM fun item => do
      let key ← (← item.get? "key").asFloat?
      some (pair key (item.get? "value"))
    some (.array pairs)
  | .object members => do
    let pairs ← members.mapM fun (key, value) => do some (pair (← Decimal.read? key) (some value))
    some (.array pairs)
  | _ => none

/-- The value of an entry in the type of its kind and field. -/
def value? (kind : AggregationKind) (scalar : Scalar) (entry : List (String × Json)) :
    Option Json :=
  match kind with
  | .percentiles => (Entries.find? "values" entry).bind percentiles?
  | .cardinality => (Entries.find? "value" entry).bind count?
  | .min | .max | .avg | .sum => metric? entry scalar

/-- What the results of a search say about a kind and a field. -/
def outcome (results : Fields) (kind : AggregationKind) (field : DocumentField) : Outcome :=
  match results.find? (Aggregation.of kind field.storeName).name with
  | some (.object entry) =>
    match value? kind field.scalar entry with
    | some value => .computed value
    | none => .malformed
  | _ => .missing

/-- The value that was computed. -/
def Outcome.value? : Outcome → Option Json
  | .computed value => some value
  | _ => none

/-- What an outcome leaves in the log. -/
def Outcome.events (name : String) : Outcome → List Event
  | .computed _ => []
  | .missing => [.aggregationMissing name]
  | .malformed => [.aggregationMalformed name]

end Aggregation

namespace Requested

/-- The results of a kind, by field. -/
def kindResults (results : Fields) (kind : AggregationKind) (fields : List DocumentField) :
    Fields :=
  .ofList (fields.filterMap fun field =>
    (Aggregation.outcome results kind field).value?.map fun value => (field.identifier, value))

/-- The results by kind and by field. -/
def read (requested : Requested) (results : Fields) : Json :=
  .object (requested.map fun (kind, fields) =>
    (kind.name, .ofFields (kindResults results kind fields)))

/-- What reading the results leaves in the log. -/
def readEvents (requested : Requested) (results : Fields) : List Event :=
  requested.flatMap fun (kind, fields) => fields.flatMap fun field =>
    (Aggregation.outcome results kind field).events (Aggregation.of kind field.storeName).name

end Requested

end DocQuery
