import DocQuery.Schema.Basic

/-!
# Schema text

A schema in the schema definition language: a declaration of the date scalar if
it is used, the name of the root type, and one block to a type.
-/

namespace DocQuery

/-- An argument or input field with its type. -/
def Argument.text (argument : Argument) : String := argument.name ++ ": " ++ argument.type.text

namespace Field

/-- The arguments in parentheses; nothing if there are none. -/
def argumentsText (field : Field) : String :=
  if field.arguments.isEmpty then ""
  else "(" ++ ", ".intercalate (field.arguments.values.map Argument.text) ++ ")"

/-- A field with its arguments and its type. -/
def text (field : Field) : String :=
  field.name ++ field.argumentsText ++ ": " ++ field.type.text

/-- Whether the field or one of its arguments is made of the scalar. -/
def uses (scalar : Scalar) (field : Field) : Bool :=
  field.type.scalar? == some scalar ||
    field.arguments.values.any fun argument => argument.type.scalar? == some scalar

end Field

/-- A block with a heading and one line to a member. -/
def blockText (heading : String) (lines : List String) : String :=
  heading ++ " \x7b\n" ++ String.join (lines.map fun line => "  " ++ line ++ "\n") ++ "\x7d\n"

namespace ObjectType

/-- The block of an object type. -/
def text (object : ObjectType) : String :=
  blockText ("type " ++ object.name) (object.fields.values.map Field.text)

/-- Whether a field of the type is made of the scalar. -/
def uses (scalar : Scalar) (object : ObjectType) : Bool :=
  object.fields.values.any (Field.uses scalar)

end ObjectType

namespace InputType

/-- The block of an input type. -/
def text (input : InputType) : String :=
  blockText ("input " ++ input.name) (input.fields.values.map Argument.text)

/-- Whether a field of the type is made of the scalar. -/
def uses (scalar : Scalar) (input : InputType) : Bool :=
  input.fields.values.any fun field => field.type.scalar? == some scalar

end InputType

namespace TypeDef

/-- The block of a generated type. -/
def text : TypeDef → String
  | .object type => type.text
  | .input type => type.text

/-- Whether a field of the type is made of the scalar. -/
def uses (scalar : Scalar) : TypeDef → Bool
  | .object type => type.uses scalar
  | .input type => type.uses scalar

end TypeDef

namespace Schema

/-- Whether any type of the schema is made of the scalar. -/
def uses (schema : Schema) (scalar : Scalar) : Bool :=
  schema.query.uses scalar || schema.types.values.any (TypeDef.uses scalar)

/-- The declaration of the date scalar, where it is used. -/
def scalarText (schema : Schema) : String :=
  if schema.uses .dateTime then "scalar DateTime\n\n" else ""

/-- The text of a schema, root type first. -/
def sdl (schema : Schema) : String :=
  schema.scalarText ++ blockText "schema" ["query: " ++ schema.query.name] ++
    String.join ((schema.query.text :: schema.types.values.map TypeDef.text).map ("\n" ++ ·))

end Schema

end DocQuery
