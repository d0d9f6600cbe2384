import DocQuery.Json.Printer
import DocQuery.Json.Reader
import DocQuery.Text.Escaped

/-!
# Naming the sort of a JSON value

Messages about a value of the wrong sort name what was found, with the value
itself if it is a scalar.
-/

namespace DocQuery.Json

/-- What a value is, in the words of messages. -/
def describe : Json → String
  | .null => "null"
  | .bool true => "boolean `true`"
  | .bool false => "boolean `false`"
  | .number (.int n) => "integer `" ++ numberText (.int n) ++ "`"
  | .number (.float x) => "floating point `" ++ numberText (.float x) ++ "`"
  | .string text => "string " ++ Text.quoted text
  | .array _ => "sequence"
  | .object _ => "map"

/-- Reads an object. A value of another sort is refused where it ends, an array
already where it begins. -/
def readObjectAt (fuel : Nat) (cursor : Cursor) : Except ReadError (Json × Cursor) :=
  let cursor := cursor.skipBlank
  match cursor.peek? with
  | some 91 => cursor.fail (.notAnObject (describe (.array [])))
  | _ => do
    let (value, rest) ← readValue fuel depthLimit cursor
    match value with
    | .object members => .ok (.object members, rest)
    | other => rest.fail (.notAnObject (describe other))

/-- The object that a text writes. -/
def readObject (text : String) : Except ReadError Fields := do
  let bytes := Text.bytes text
  let value ← readOne bytes (readObjectAt (2 * bytes.length + 2))
  .ok ((asFields? value).getD .empty)

end DocQuery.Json
