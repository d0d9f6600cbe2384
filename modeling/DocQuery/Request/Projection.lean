import DocQuery.Names.Registry
import DocQuery.Query.SourceFilter
import DocQuery.Selection

/-!
# What a selection of documents needs

The store fields behind the selected names, each once, and whether the id is
wanted. Names that start with two underscores ask about the query itself and
need nothing from the store.
-/

namespace DocQuery

/-- What a selection needs from the store. -/
structure Projection where
  /-- Store fields, in the order of selection. -/
  fields : List String
  /-- Whether the id is selected. -/
  includesId : Bool
  deriving DecidableEq, Repr

namespace Projection

/-- The name under which the id of a document is selected. -/
def idName : String := "id"

/-- Whether a name asks about the query itself. -/
def isMeta (name : String) : Bool := "__".toList.isPrefixOf name.toList

/-- Whether a name stands for a field of the store. -/
def isFieldName (name : String) : Bool := name != idName && !isMeta name

/-- What a selection needs. -/
def ofSelection (registry : Registry) (selection : SelectionSet) : Projection where
  fields := ((selection.names.filter isFieldName).map registry.storeName).eraseDups
  includesId := selection.names.contains idName

/-- The part of each document that the store is asked for. -/
def source (projection : Projection) : SourceFilter := .ofFields projection.fields

end Projection

end DocQuery
