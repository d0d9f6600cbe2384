import DocQuery.Config
import DocQuery.Mapping
import DocQuery.Names.Registry
import DocQuery.Schema.Target

/-!
# The fields of a collection that can be queried

A field is part of the schema if its name is not to be ignored and it is a leaf
whose store type has a scalar. Every other field is left out, which is no error,
and leaves no trace but a line in the log.
-/

namespace DocQuery.Compile

/-- What becomes of a field. -/
inductive Verdict where
  /-- The settings leave it out. -/
  | ignored
  /-- It is no leaf. -/
  | withoutScalar
  /-- Its store type has no scalar. -/
  | unsupported (error : Error)
  /-- It is part of the schema. -/
  | retained (field : DocumentField)

/-- Decides what becomes of a field. -/
def Verdict.of (config : Config) (name : String) (mapping : FieldMapping) : Verdict :=
  if config.ignores name then .ignored
  else
    match mapping.kind? with
    | none => .withoutScalar
    | some kind =>
      match Scalar.ofKind kind with
      | .error error => .unsupported error
      | .ok scalar => .retained ⟨name, Names.normalize name, kind, scalar⟩

/-- The field as part of the schema. -/
def Verdict.field? : Verdict → Option DocumentField
  | .retained field => some field
  | _ => none

/-- What a verdict leaves in the log; `registry` is the state just before. -/
def Verdict.events (registry : Registry) (name : String) : Verdict → List Event
  | .ignored => []
  | .withoutScalar => [.fieldWithoutScalar name]
  | .unsupported error => [.fieldSkipped name error]
  | .retained _ => registry.registrationEvents name

/-- The fields that are part of the schema, in the order of the metadata. -/
def retainedFields (config : Config) (mapping : CollectionMapping) : List DocumentField :=
  mapping.filterMap fun entry => (Verdict.of config entry.1 entry.2).field?

/-- What deciding on fields leaves in the log. Each retained field is registered
before the next one is looked at. -/
def fieldEvents (config : Config) : Registry → CollectionMapping → List Event
  | _, [] => []
  | registry, (name, mapping) :: rest =>
    let verdict := Verdict.of config name mapping
    let registered := registry.registerAll (verdict.field?.toList.map DocumentField.storeName)
    verdict.events registry name ++ fieldEvents config registered rest

end DocQuery.Compile
