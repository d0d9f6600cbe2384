import DocQuery.Text.Blank

/-!
# Name patterns

In a pattern a star stands for any characters, also none, and every other
character for itself. A list of patterns has commas between them and may have
white space around each.
-/

namespace DocQuery.Glob

/-- What is left of a list after dropping any number of items in front. -/
def suffixes : List Char → List (List Char)
  | [] => [[]]
  | c :: rest => (c :: rest) :: suffixes rest

/-- Whether a pattern describes a name. -/
def describesChars : (pattern name : List Char) → Bool
  | [], name => name.isEmpty
  | c :: pattern, name =>
    if c = '*' then (suffixes name).any (describesChars pattern)
    else
      match name with
      | [] => false
      | d :: name => c == d && describesChars pattern name

/-- Whether a pattern describes a name. -/
def describes (pattern name : String) : Bool := describesChars pattern.toList name.toList

/-- The patterns of a list. -/
def parts (patterns : String) : List String := (Text.split ',' patterns).map Text.trim

/-- Whether any pattern of a list describes a name. -/
def anyDescribes (patterns name : String) : Bool :=
  (parts patterns).any fun pattern => describes pattern name

end DocQuery.Glob
