import DocQuery.Proofs.Maps.Indexed
import DocQuery.Proofs.Names.Identifiers
import DocQuery.Schema.Basic

/-!
# Well-formed schemas

What makes a schema usable: every name is an identifier, every type has a field, and
the types that fields and arguments name are there, object types for output and
input types for input.

References go through `TypeNames`, so that the types of a collection can be judged
among themselves first and in the schema that they are merged into afterwards:
`mono` says that nothing is lost on the way.
-/

namespace DocQuery

/-- Which names stand for an object type and which for an input type. -/
structure TypeNames where
  object : String → Prop
  input : String → Prop

/-- More names for object types and for input types. -/
structure TypeNames.Within (names more : TypeNames) : Prop where
  object : ∀ name, names.object name → more.object name
  input : ∀ name, names.input name → more.input name

variable {names more : TypeNames}

/-- A well-formed argument or input field: if its type is made of a named one, that is
an input type. -/
structure Argument.WellFormed (names : TypeNames) (argument : Argument) : Prop where
  identifier : Names.IsIdentifier argument.name
  refers : ∀ name, argument.type.named? = some name → names.input name

theorem Argument.WellFormed.mono {argument : Argument} (formed : argument.WellFormed names)
    (within : names.Within more) : argument.WellFormed more where
  identifier := formed.identifier
  refers := fun name named => within.input name (formed.refers name named)

/-- A well-formed output field: if its type is made of a named one, that is an object
type. -/
structure Field.WellFormed (names : TypeNames) (field : Field) : Prop where
  identifier : Names.IsIdentifier field.name
  refers : ∀ name, field.type.named? = some name → names.object name
  arguments : field.arguments.Indexes Argument.name (Argument.WellFormed names)

theorem Field.WellFormed.mono {field : Field} (formed : field.WellFormed names)
    (within : names.Within more) : field.WellFormed more where
  identifier := formed.identifier
  refers := fun name named => within.object name (formed.refers name named)
  arguments := formed.arguments.imp fun _ argument => argument.mono within

/-- A well-formed object type. -/
structure ObjectType.WellFormed (names : TypeNames) (object : ObjectType) : Prop where
  identifier : Names.IsIdentifier object.name
  inhabited : object.fields.isEmpty = false
  fields : object.fields.Indexes Field.name (Field.WellFormed names)

theorem ObjectType.WellFormed.mono {object : ObjectType} (formed : object.WellFormed names)
    (within : names.Within more) : object.WellFormed more where
  identifier := formed.identifier
  inhabited := formed.inhabited
  fields := formed.fields.imp fun _ field => field.mono within

/-- A well-formed input type. -/
structure InputType.WellFormed (names : TypeNames) (input : InputType) : Prop where
  identifier : Names.IsIdentifier input.name
  inhabited : input.fields.isEmpty = false
  fields : input.fields.Indexes Argument.name (Argument.WellFormed names)

theorem InputType.WellFormed.mono {input : InputType} (formed : input.WellFormed names)
    (within : names.Within more) : input.WellFormed more where
  identifier := formed.identifier
  inhabited := formed.inhabited
  fields := formed.fields.imp fun _ field => field.mono within

/-- A well-formed type of either sort. -/
def TypeDef.WellFormed (names : TypeNames) : TypeDef → Prop
  | .object type => type.WellFormed names
  | .input type => type.WellFormed names

theorem TypeDef.WellFormed.mono {type : TypeDef} (formed : type.WellFormed names)
    (within : names.Within more) : type.WellFormed more := by
  cases type with
  | object type => exact ObjectType.WellFormed.mono formed within
  | input type => exact InputType.WellFormed.mono formed within

theorem TypeDef.WellFormed.identifier {type : TypeDef} (formed : type.WellFormed names) :
    Names.IsIdentifier type.name := by
  cases type with
  | object type => exact ObjectType.WellFormed.identifier formed
  | input type => exact InputType.WellFormed.identifier formed

namespace Schema

/-- The names that the types of a schema have. -/
def typeNames (schema : Schema) : TypeNames where
  object name := ∃ type, schema.object? name = some type
  input name := ∃ type, schema.input? name = some type

/-- The names that no generated type may have: that of the root type and those of scalars. -/
def reservedNames : List String := rootName :: Scalar.all.map Scalar.name

theorem object?_eq_some_iff {schema : Schema} {name : String} {type : ObjectType} :
    schema.object? name = some type ↔ schema.type? name = some (.object type) := by
  rw [object?]
  split <;> simp_all

theorem input?_eq_some_iff {schema : Schema} {name : String} {type : InputType} :
    schema.input? name = some type ↔ schema.type? name = some (.input type) := by
  rw [input?]
  split <;> simp_all

/-- A schema whose types are well-formed with regard to each other, each under its own
name, and whose root fields can be resolved. -/
structure WellFormed (schema : Schema) : Prop where
  root : schema.query.name = rootName
  query : schema.query.WellFormed schema.typeNames
  resolved : ∀ field ∈ schema.query.fields.values, field.resolver.isSome = true
  types : schema.types.Indexes TypeDef.name (TypeDef.WellFormed schema.typeNames)
  unreserved : ∀ type ∈ schema.types.values, type.name ∉ reservedNames

end Schema

end DocQuery
