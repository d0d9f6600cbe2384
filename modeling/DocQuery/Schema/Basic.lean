import DocQuery.Schema.Target
import DocQuery.Schema.TypeRef

/-!
# Schemas

A schema is a root type, whose fields can be queried, and the object and input
types that the root refers to. Types, fields and arguments are keyed by their
names and listed in the order of definition; defining a name again replaces the
definition and keeps the place.
-/

namespace DocQuery

/-- An argument of a field, or a field of an input type. -/
structure Argument where
  name : String
  type : TypeRef
  deriving DecidableEq

/-- A field of an object type. -/
structure Field where
  name : String
  type : TypeRef
  arguments : OrderedMap String Argument
  /-- Present at the root only. Other fields are read off their parent's value. -/
  resolver : Option Resolver
  deriving DecidableEq

namespace Field

/-- A field without arguments. -/
def of (name : String) (type : TypeRef) : Field := ⟨name, type, .empty, none⟩

/-- Adds an argument. -/
def argument (field : Field) (name : String) (type : TypeRef) : Field :=
  { field with arguments := field.arguments.insert name ⟨name, type⟩ }

/-- Says how the value of the field is found. -/
def resolvedBy (field : Field) (resolver : Resolver) : Field :=
  { field with resolver := some resolver }

end Field

/-- An object type. -/
structure ObjectType where
  name : String
  fields : OrderedMap String Field
  deriving DecidableEq

namespace ObjectType

/-- A type without fields. -/
def of (name : String) : ObjectType := ⟨name, .empty⟩

/-- Adds a field. -/
def push (object : ObjectType) (field : Field) : ObjectType :=
  { object with fields := object.fields.insert field.name field }

/-- Adds fields one after another. -/
def pushAll (object : ObjectType) (fields : List Field) : ObjectType :=
  fields.foldl push object

/-- The field with a given name. -/
def field? (object : ObjectType) (name : String) : Option Field := object.fields.find? name

end ObjectType

/-- An input type. -/
structure InputType where
  name : String
  fields : OrderedMap String Argument
  deriving DecidableEq

namespace InputType

/-- A type without fields. -/
def of (name : String) : InputType := ⟨name, .empty⟩

/-- Adds a field. -/
def push (input : InputType) (name : String) (type : TypeRef) : InputType :=
  { input with fields := input.fields.insert name ⟨name, type⟩ }

/-- Adds fields one after another. -/
def pushAll (input : InputType) (fields : List (String × TypeRef)) : InputType :=
  fields.foldl (fun input field => input.push field.1 field.2) input

/-- The field with a given name. -/
def field? (input : InputType) (name : String) : Option Argument := input.fields.find? name

end InputType

/-- A generated type. -/
inductive TypeDef where
  | object (type : ObjectType)
  | input (type : InputType)
  deriving DecidableEq

/-- The name of a generated type. -/
def TypeDef.name : TypeDef → String
  | .object type => type.name
  | .input type => type.name

/-- A root type and the types that it refers to. -/
structure Schema where
  query : ObjectType
  types : OrderedMap String TypeDef
  deriving DecidableEq

namespace Schema

/-- The name of the root type of generated schemas. -/
def rootName : String := "RootQuery"

/-- The root field with a given name. -/
def field? (schema : Schema) (name : String) : Option Field := schema.query.field? name

/-- The type with a given name. -/
def type? (schema : Schema) (name : String) : Option TypeDef := schema.types.find? name

/-- The object type with a given name. -/
def object? (schema : Schema) (name : String) : Option ObjectType :=
  match schema.type? name with
  | some (.object type) => some type
  | _ => none

/-- The input type with a given name. -/
def input? (schema : Schema) (name : String) : Option InputType :=
  match schema.type? name with
  | some (.input type) => some type
  | _ => none

/-- The names of the root fields, in order. -/
def rootFields (schema : Schema) : List String := schema.query.fields.keys

end Schema

end DocQuery
