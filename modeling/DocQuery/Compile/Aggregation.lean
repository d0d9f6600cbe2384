import DocQuery.Query.Aggregation
import DocQuery.Schema.Basic

/-!
# The types of aggregation results

Results are given by kind, then by field. A count is an `Int`, percentiles are a
list of pairs, and every other result has the scalar of its field.
-/

namespace DocQuery.Compile

/-- The output types behind the aggregations of a collection. -/
structure AggregationTypes where
  /-- The type of the result, with a field for every kind. -/
  root : ObjectType
  /-- For every kind a type with a field for every field of the collection. -/
  kinds : List ObjectType

/-- The output types, the type of the result first. -/
def AggregationTypes.all (types : AggregationTypes) : List ObjectType :=
  types.root :: types.kinds

/-- The name of the type of the result. -/
def aggregationName (collection : String) : String := collection ++ "_aggregation_document"

/-- The name of the type of the results of a kind. -/
def kindName (collection : String) (kind : AggregationKind) : String :=
  collection ++ "_" ++ kind.name ++ "_aggregation_document"

/-- The name of the type of a percentile with its value. -/
def pairName : String := "key_value"

/-- The type of a percentile with its value. -/
def pairType : ObjectType :=
  ((ObjectType.of pairName).push (.of "key" Scalar.float)).push (.of "value" Scalar.float)

/-- The type of the result of a kind over a field. -/
def resultType (kind : AggregationKind) (scalar : Scalar) : TypeRef :=
  match kind with
  | .cardinality => .scalar .int
  | .percentiles => .list (.named pairName)
  | .min | .max | .avg | .sum => .scalar scalar

/-- The type of the results of a kind. -/
def kindType (collection : String) (fields : List DocumentField) (kind : AggregationKind) :
    ObjectType :=
  (ObjectType.of (kindName collection kind)).pushAll
    (fields.map fun field => .of field.identifier (resultType kind field.scalar))

/-- The output types behind the aggregations of a collection. -/
def aggregationTypes (collection : String) (fields : List DocumentField) : AggregationTypes where
  root := (ObjectType.of (aggregationName collection)).pushAll
    (AggregationKind.all.map fun kind => .of kind.name (.named (kindName collection kind)))
  kinds := AggregationKind.all.map (kindType collection fields)

end DocQuery.Compile
