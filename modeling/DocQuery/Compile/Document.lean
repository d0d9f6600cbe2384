import DocQuery.Schema.Basic

/-!
# The type of documents

One field for every field of the collection and one for the id. The id comes
last in definition, so no field of the collection can take its place.
-/

namespace DocQuery.Compile

/-- The name of the type of documents. -/
def documentName (collection : String) : String := collection ++ "_document"

/-- The type of the documents of a collection. -/
def documentType (collection : String) (fields : List DocumentField) : ObjectType :=
  ((ObjectType.of (documentName collection)).pushAll
    (fields.map fun field => .of field.identifier field.scalar)).push (.of "id" Scalar.id)

end DocQuery.Compile
