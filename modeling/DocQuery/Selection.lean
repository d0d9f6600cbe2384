/-!
# Selections

What a caller wants to see of a value: names, each with a selection of what is
below it.
-/

namespace DocQuery

/-- A selected name with the selection below it. -/
structure Selection where
  name : String
  children : List Selection

/-- Selected names, in order; a name may occur more than once. -/
abbrev SelectionSet := List Selection

/-- A selected name with nothing selected below it. -/
def Selection.leaf (name : String) : Selection := ⟨name, []⟩

namespace SelectionSet

/-- The first selection of a name. -/
def get? (selections : SelectionSet) (name : String) : Option Selection :=
  selections.find? fun selection => selection.name == name

/-- Whether a name is selected. -/
def contains (selections : SelectionSet) (name : String) : Bool :=
  (selections.get? name).isSome

/-- The selected names. -/
def names (selections : SelectionSet) : List String := selections.map Selection.name

end SelectionSet

end DocQuery
