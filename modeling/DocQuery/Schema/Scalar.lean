import DocQuery.Error

/-!
# Scalars

The leaf types of typed queries, and which store types they stand for.
-/

namespace DocQuery

/-- A leaf type of typed queries. -/
inductive Scalar where
  | boolean
  | dateTime
  | float
  | id
  | int
  | string
  deriving DecidableEq, Repr

namespace Scalar

/-- Every scalar. -/
def all : List Scalar := [.boolean, .dateTime, .float, .id, .int, .string]

/-- The name of a scalar in a schema. -/
def name : Scalar → String
  | .boolean => "Boolean"
  | .dateTime => "DateTime"
  | .float => "Float"
  | .id => "ID"
  | .int => "Int"
  | .string => "String"

/-- The scalar that a store type has in typed queries. -/
def ofKind (kind : String) : Except Error Scalar :=
  if kind = "float" then .ok .float
  else if kind = "long" then .ok .int
  else if kind = "string" then .ok .string
  else if kind = "date" then .ok .dateTime
  else if kind = "boolean" then .ok .boolean
  else .error (.of (.unsupportedType kind))

/-- The scalar with a given name. -/
def ofName? (name : String) : Option Scalar := all.find? fun scalar => scalar.name == name

/-- Whether a schema may use the scalar without declaring it. -/
def isBuiltin : Scalar → Bool
  | .dateTime => false
  | _ => true

end Scalar

end DocQuery
