import DocQuery.Decimal.Shortest
import DocQuery.Json.Basic
import DocQuery.Text.Digits

/-!
# JSON text

Values are written in two layouts: compact, without any white space, and
indented, with one member or item to a line. Both keep the order of members
and write the same scalars.
-/

namespace DocQuery.Json

/-- Floating-point numbers keep a `.0` and become scientific below `1e-5` and
from `1e+16` on. -/
def floatStyle : Decimal.Style where
  leastPositional := -5
  greatestPositional := 15
  emptyFraction := ['.', '0']
  exponentMark := ['e']
  exponentPlus := ['+']

/-- The text of a number. -/
def numberText : Number → String
  | .int n => Text.intText n
  | .float x => floatStyle.renderFloat x

/-- One character as it stands in a JSON string: quotes, backslashes and
controls are escaped. -/
def escapeChar (c : Char) : List Char :=
  if c = '"' then ['\\', '"']
  else if c = '\\' then ['\\', '\\']
  else if c = '\x08' then ['\\', 'b']
  else if c = '\t' then ['\\', 't']
  else if c = '\n' then ['\\', 'n']
  else if c = '\x0c' then ['\\', 'f']
  else if c = '\r' then ['\\', 'r']
  else if c.toNat < 0x20 then
    ['\\', 'u', '0', '0', Nat.digitChar (c.toNat / 16), Nat.digitChar (c.toNat % 16)]
  else [c]

/-- A string in quotes. -/
def stringText (text : String) : String :=
  String.ofList ('"' :: text.toList.flatMap escapeChar ++ ['"'])

mutual

/-- The text of a value without white space. -/
def compact : Json → String
  | .null => "null"
  | .bool true => "true"
  | .bool false => "false"
  | .number n => numberText n
  | .string text => stringText text
  | .array items => "[" ++ compactItems items ++ "]"
  | .object members => "\x7b" ++ compactMembers members ++ "\x7d"

/-- The items of an array with commas between them. -/
def compactItems : List Json → String
  | [] => ""
  | [item] => compact item
  | item :: rest => compact item ++ "," ++ compactItems rest

/-- The members of an object with commas between them. -/
def compactMembers : List (String × Json) → String
  | [] => ""
  | [(key, value)] => stringText key ++ ":" ++ compact value
  | (key, value) :: rest =>
    stringText key ++ ":" ++ compact value ++ "," ++ compactMembers rest

end

/-- A line break followed by the indentation of a nesting depth. -/
def newLine (depth : Nat) : String := String.ofList ('\n' :: List.replicate (2 * depth) ' ')

mutual

/-- The text of a value at a nesting depth, two spaces to a level. Empty arrays
and objects stay on one line. -/
def indentedAt (depth : Nat) : Json → String
  | .null => "null"
  | .bool true => "true"
  | .bool false => "false"
  | .number n => numberText n
  | .string text => stringText text
  | .array [] => "[]"
  | .array items => "[" ++ indentedItems (depth + 1) items ++ newLine depth ++ "]"
  | .object [] => "\x7b\x7d"
  | .object members =>
    "\x7b" ++ indentedMembers (depth + 1) members ++ newLine depth ++ "\x7d"

/-- The items of an array, each on a line of its own. -/
def indentedItems (depth : Nat) : List Json → String
  | [] => ""
  | [item] => newLine depth ++ indentedAt depth item
  | item :: rest => newLine depth ++ indentedAt depth item ++ "," ++ indentedItems depth rest

/-- The members of an object, each on a line of its own. -/
def indentedMembers (depth : Nat) : List (String × Json) → String
  | [] => ""
  | [(key, value)] => newLine depth ++ stringText key ++ ": " ++ indentedAt depth value
  | (key, value) :: rest =>
    newLine depth ++ stringText key ++ ": " ++ indentedAt depth value ++ "," ++
      indentedMembers depth rest

end

/-- The text of a value, indented by two spaces to a level. -/
def indented (value : Json) : String := indentedAt 0 value

end DocQuery.Json
