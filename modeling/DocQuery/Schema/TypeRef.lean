import DocQuery.Schema.Scalar

/-!
# References to types

The type of a field or an argument: a scalar or a named type, wrapped in any
number of lists and non-null marks.
-/

namespace DocQuery

/-- A type in the position of a field or an argument. -/
inductive TypeRef where
  | scalar (leaf : Scalar)
  /-- A generated type, by name. -/
  | named (name : String)
  | list (item : TypeRef)
  | nonNull (inner : TypeRef)
  deriving DecidableEq, Repr

namespace TypeRef

instance : Coe Scalar TypeRef := ⟨.scalar⟩

/-- The innermost type. -/
def base : TypeRef → TypeRef
  | .list inner | .nonNull inner => inner.base
  | leaf => leaf

/-- The scalar inside, if the innermost type is one. -/
def scalar? (type : TypeRef) : Option Scalar :=
  match type.base with
  | .scalar leaf => some leaf
  | _ => none

/-- The name inside, if the innermost type is a generated one. -/
def named? (type : TypeRef) : Option String :=
  match type.base with
  | .named typeName => some typeName
  | _ => none

/-- Whether the outermost mark excludes `null`. -/
def isNonNull : TypeRef → Bool
  | .nonNull _ => true
  | _ => false

/-- The text of a reference: lists in brackets, non-null with an exclamation mark. -/
def text : TypeRef → String
  | .scalar leaf => leaf.name
  | .named typeName => typeName
  | .list item => "[" ++ item.text ++ "]"
  | .nonNull inner => inner.text ++ "!"

end TypeRef

end DocQuery
