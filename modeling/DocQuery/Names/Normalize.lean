/-!
# Identifiers from store names

Names of fields and collections in the store may hold any characters. In a
typed query every name is an identifier: letters, digits and underscores of
ASCII, and no digit first. `normalize` turns a store name into one.

The result is always an identifier, identifiers are left as they are, and so
normalizing twice is normalizing once.
-/

namespace DocQuery.Names

/-- Characters that are removed before anything else. -/
def isStripped (c : Char) : Bool :=
  c == '[' || c == '(' || c == ')' || c == '?' || c == '@' || c == '#' || c == ']'

/-- Characters that an identifier may hold. -/
def isIdentifierChar (c : Char) : Bool := c.isAlphanum || c == '_'

/-- Replaces a character that an identifier may not hold. -/
def replaceForeign (c : Char) : Char := if isIdentifierChar c then c else '_'

/-- Spells out a leading sign. -/
def spellSign : List Char → List Char
  | '+' :: rest => "plus_".toList ++ rest
  | '-' :: rest => "minus_".toList ++ rest
  | chars => chars

/-- Puts an underscore in front of a leading digit and in place of nothing. -/
def guardStart : List Char → List Char
  | [] => ['_']
  | c :: rest => if c.isDigit then '_' :: c :: rest else c :: rest

/-- Strips characters, spells out a leading sign, replaces foreign characters
and guards the start, in this order. -/
def normalizeChars (chars : List Char) : List Char :=
  guardStart ((spellSign (chars.filter fun c => !isStripped c)).map replaceForeign)

/-- The identifier of a store name. -/
def normalize (name : String) : String := String.ofList (normalizeChars name.toList)

/-- Letters, digits and underscores, at least one, and no digit first. -/
def IsIdentifierChars : List Char → Prop
  | [] => False
  | c :: rest => c.isDigit = false ∧ ∀ d ∈ c :: rest, isIdentifierChar d = true

/-- A text that is an identifier. -/
def IsIdentifier (text : String) : Prop := IsIdentifierChars text.toList

end DocQuery.Names
