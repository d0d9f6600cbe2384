import DocQuery.Json.Basic

/-!
# Source filters

Which fields of a document the store is asked to return.
-/

namespace DocQuery

/-- The part of a document that the store returns. -/
inductive SourceFilter where
  /-- The whole document. -/
  | all
  /-- The id and nothing else. -/
  | disabled
  /-- The fields with these store names. -/
  | includes (fields : List String)
  deriving DecidableEq, Repr

namespace SourceFilter

/-- Asks for the given fields. No fields means no source, not all of it. -/
def ofFields (fields : List String) : SourceFilter :=
  if fields.isEmpty then .disabled else .includes fields

/-- Whether a field is part of what is returned. -/
def admits (filter : SourceFilter) (field : String) : Bool :=
  match filter with
  | .all => true
  | .disabled => false
  | .includes fields => fields.contains field

/-- The fields of a document that are returned. -/
def apply (filter : SourceFilter) (source : Fields) : Fields :=
  source.filter fun field _ => filter.admits field

/-- A source filter in the query language of the store. -/
def toJson : SourceFilter → Json
  | .all => .bool true
  | .disabled => .bool false
  | .includes fields => .ofStrings fields

end SourceFilter

end DocQuery
