import DocQuery.Proofs.Schema.WellFormed

/-!
# Legible schemas

What a schema needs for its text to be read in one way: every name is an identifier, no
generated type that is referred to is named like a scalar, and everything is kept under its
own name. References may lead nowhere, and types may be empty. Well-formed schemas are
legible.
-/

namespace DocQuery

/-- An identifier that no scalar has for its name. -/
structure LegibleName (name : String) : Prop where
  identifier : Names.IsIdentifier name
  unlike : name ∉ Scalar.all.map Scalar.name

/-- All legible names, for types of either sort. -/
def TypeNames.legible : TypeNames := ⟨LegibleName, LegibleName⟩

/-- An object type that is well-formed, except that it may be empty. -/
structure ObjectType.Legible (object : ObjectType) : Prop where
  identifier : Names.IsIdentifier object.name
  fields : object.fields.Indexes Field.name (Field.WellFormed .legible)

/-- An input type that is well-formed, except that it may be empty. -/
structure InputType.Legible (input : InputType) : Prop where
  identifier : Names.IsIdentifier input.name
  fields : input.fields.Indexes Argument.name (Argument.WellFormed .legible)

/-- A legible type of either sort. -/
def TypeDef.Legible : TypeDef → Prop
  | .object type => type.Legible
  | .input type => type.Legible

theorem TypeDef.Legible.identifier {type : TypeDef} (legible : type.Legible) :
    Names.IsIdentifier type.name := by
  cases type with
  | object type => exact ObjectType.Legible.identifier legible
  | input type => exact InputType.Legible.identifier legible

/-- A well-formed object type is legible. -/
theorem ObjectType.WellFormed.legible {object : ObjectType}
    (formed : object.WellFormed .legible) : object.Legible where
  identifier := formed.identifier
  fields := formed.fields

/-- A well-formed type is legible. -/
theorem TypeDef.WellFormed.legible {type : TypeDef} (formed : type.WellFormed .legible) :
    type.Legible := by
  cases type with
  | object type => exact ObjectType.WellFormed.legible formed
  | input type =>
      exact ⟨InputType.WellFormed.identifier formed, InputType.WellFormed.fields formed⟩

namespace Schema

variable {schema : Schema}

/-- A schema of legible types, each under its own name. -/
structure Legible (schema : Schema) : Prop where
  query : schema.query.Legible
  types : schema.types.Indexes TypeDef.name TypeDef.Legible

/-- All types of a legible schema are legible. -/
theorem Legible.of_mem (legible : schema.Legible) {type : TypeDef}
    (member : type ∈ .object schema.query :: schema.types.values) : type.Legible := by
  rcases List.mem_cons.mp member with rfl | generated
  · exact legible.query
  · exact legible.types.of_mem_values generated

/-- The types of a well-formed schema have legible names. -/
theorem WellFormed.typeNames_within_legible (formed : schema.WellFormed) :
    schema.typeNames.Within .legible := by
  have found : ∀ {name : String} {type : TypeDef}, schema.type? name = some type →
      LegibleName name := by
    intro name type found
    obtain ⟨rfl, typeFormed⟩ := formed.types.of_find? found
    have listed : type ∈ schema.types.values :=
      List.mem_map.mpr ⟨_, OrderedMap.find?_eq_some_iff_mem.mp found, rfl⟩
    exact ⟨typeFormed.identifier,
      fun scalar => formed.unreserved type listed (List.mem_cons_of_mem _ scalar)⟩
  constructor
  · rintro name ⟨object, known⟩
    rw [object?] at known
    split at known
    · exact found ‹_›
    · cases known
  · rintro name ⟨input, known⟩
    rw [input?] at known
    split at known
    · exact found ‹_›
    · cases known

/-- A well-formed schema is legible. -/
theorem WellFormed.legible (formed : schema.WellFormed) : schema.Legible where
  query := (formed.query.mono formed.typeNames_within_legible).legible
  types := formed.types.imp fun _ type => (type.mono formed.typeNames_within_legible).legible

end Schema

end DocQuery
