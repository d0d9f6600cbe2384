/-!
# Settings

What shapes the generated schema and the handling of requests.
-/

namespace DocQuery

/-- Settings of a handle. -/
structure Config where
  /-- Which collections are part of the schema, as a list of patterns. -/
  includePattern : String := "*"
  /-- Fields whose names start so are not part of the schema. -/
  ignoredStart : Option String := none
  /-- Whether collections can be aggregated over. -/
  aggregations : Bool := true
  /-- Whether operations are logged. -/
  logQueries : Bool := false
  /-- Whether answers of the store are logged. -/
  logResults : Bool := false
  /-- How many milliseconds the store may take, where a request does not say. -/
  requestTimeout : Option Nat := none
  deriving DecidableEq, Repr

namespace Config

/-- Leaves out fields whose names start with `start`; an empty start leaves out none. -/
def ignoring (config : Config) (start : String) : Config :=
  { config with ignoredStart := if start.isEmpty then none else some start }

/-- Whether a field is left out because of its name. -/
def ignores (config : Config) (field : String) : Bool :=
  match config.ignoredStart with
  | none => false
  | some start => start.toList.isPrefixOf field.toList

end Config

end DocQuery
