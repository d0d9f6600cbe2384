import DocQuery.Query.Basic
import DocQuery.Schema.Basic

/-!
# The types of filters

A filter is given by clause, then by field, then by `range`, then by operator;
the bounds have the scalar of the field. Every clause of every collection has a
type of its own.
-/

namespace DocQuery.Compile

/-- The input types behind the filter argument of a collection. -/
structure FilterTypes where
  /-- The type of the argument, with a field for every clause. -/
  root : InputType
  /-- For every clause a type with a field for every field of the collection. -/
  clauses : List InputType
  /-- For every field of the collection the types of its conditions and its bounds. -/
  terms : List InputType

/-- The input types, the type of the argument first. -/
def FilterTypes.all (types : FilterTypes) : List InputType :=
  types.root :: (types.clauses ++ types.terms)

/-- The name of the type of the filter argument. -/
def filterName (collection : String) : String := collection ++ "_boolean_args"

/-- The name of the type of a clause. -/
def clauseName (collection : String) (clause : Clause) : String :=
  filterName collection ++ "_" ++ clause.name

/-- The name of the type of the conditions on a field. -/
def termName (collection field : String) : String :=
  collection ++ "_" ++ field ++ "_term_level_args"

/-- The name of the type of the bounds on a field. -/
def rangeName (collection field : String) : String :=
  collection ++ "_" ++ field ++ "_range_args"

/-- The type of the conditions on a field. -/
def termType (collection : String) (field : DocumentField) : InputType :=
  (InputType.of (termName collection field.identifier)).push "range"
    (.named (rangeName collection field.identifier))

/-- The type of the bounds on a field. -/
def rangeType (collection : String) (field : DocumentField) : InputType :=
  (InputType.of (rangeName collection field.identifier)).pushAll
    (RangeOp.all.map fun op => (op.name, .scalar field.scalar))

/-- The type of a clause. -/
def clauseType (collection : String) (fields : List DocumentField) (clause : Clause) :
    InputType :=
  (InputType.of (clauseName collection clause)).pushAll
    (fields.map fun field => (field.identifier, .named (termName collection field.identifier)))

/-- The input types behind the filter argument of a collection. -/
def filterTypes (collection : String) (fields : List DocumentField) : FilterTypes where
  root := (InputType.of (filterName collection)).pushAll
    (Clause.all.map fun clause => (clause.name, .named (clauseName collection clause)))
  clauses := Clause.all.map (clauseType collection fields)
  terms := fields.flatMap fun field => [termType collection field, rangeType collection field]

end DocQuery.Compile
