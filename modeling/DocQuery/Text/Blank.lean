/-!
# Blank characters

White space in the sense of the Unicode property `White_Space`, and the removal
of white space from the ends of a text.
-/

namespace DocQuery.Text

/-- The characters with the Unicode property `White_Space`. -/
def isBlank (c : Char) : Bool :=
  let code := c.toNat
  (9 ≤ code && code ≤ 13) || code == 0x20 || code == 0x85 || code == 0xA0 || code == 0x1680 ||
    (0x2000 ≤ code && code ≤ 0x200A) || code == 0x2028 || code == 0x2029 || code == 0x202F ||
    code == 0x205F || code == 0x3000

/-- The characters from the first that is not blank. -/
def trimStart (chars : List Char) : List Char := chars.dropWhile isBlank

/-- The characters without the blank ones at either end. -/
def trimChars (chars : List Char) : List Char :=
  (trimStart (trimStart chars).reverse).reverse

/-- The text without white space at either end. -/
def trim (text : String) : String := String.ofList (trimChars text.toList)

/-- The parts of a text between the separators, empty parts included. -/
def split (separator : Char) (text : String) : List String :=
  (text.toList.splitOn separator).map String.ofList

end DocQuery.Text
