import DocQuery.Selection
import DocQuery.Text.Blank

/-!
# Selections from dotted paths

On the command line a selection is a list of paths with dots between the names.
Paths that begin alike share the beginning, so no name occurs twice among the
names below another.
-/

namespace DocQuery.SelectionSet

/-- Changes what is selected below a name, which is selected last if it is not
selected yet. -/
def update (name : String) (change : SelectionSet → SelectionSet) : SelectionSet → SelectionSet
  | [] => [⟨name, change []⟩]
  | selection :: others =>
    if selection.name = name then ⟨name, change selection.children⟩ :: others
    else selection :: update name change others

/-- Adds a path to a selection. -/
def addPath : (path : List String) → SelectionSet → SelectionSet
  | [], selections => selections
  | name :: rest, selections => update name (addPath rest) selections

/-- The names of a path. -/
def segments (path : String) : List String := Text.split '.' path

/-- The selection that paths describe; blank paths describe nothing. -/
def ofPaths (paths : List String) : SelectionSet :=
  ((paths.map Text.trim).filter fun path => !path.isEmpty).foldl
    (fun selections path => addPath (segments path) selections) []

end DocQuery.SelectionSet
