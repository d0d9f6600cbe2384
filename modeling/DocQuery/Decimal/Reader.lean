import DocQuery.Text.Digits

/-!
# Reading decimal numbers

Decimal text with an optional sign, fraction and exponent, as the nearest
floating-point number. Digits may be missing on one side of the point. The
words for infinity and for what is no number are read in any case of letters.
-/

namespace DocQuery.Decimal

/-- A run of digits and what follows it. -/
def spanDigits (chars : List Char) : List Char × List Char := chars.span Char.isDigit

/-- The digits behind a point, if there is one. -/
def fraction : List Char → List Char × List Char
  | '.' :: rest => spanDigits rest
  | chars => ([], chars)

/-- The exponent at the end of a number; there may be none. -/
def exponent? : List Char → Option Int
  | [] => some 0
  | c :: rest => if c = 'e' ∨ c = 'E' then Text.readSigned? rest else none

/-- The float nearest to `significand * 10 ^ exponent`. -/
def nearest (significand : Nat) (exponent : Int) : Float :=
  let magnitude := (Text.natDigits significand).length + exponent
  if significand = 0 ∨ magnitude < -400 then 0
  else if 400 < magnitude then 1 / 0
  else Float.ofScientific significand (exponent < 0) exponent.natAbs

/-- A number without a sign. -/
def readUnsigned? (chars : List Char) : Option Float :=
  let (whole, rest) := spanDigits chars
  let (part, rest) := fraction rest
  if (whole ++ part).isEmpty then none
  else
    (exponent? rest).map fun exponent =>
      nearest (Text.digitsValue (whole ++ part) 0) (exponent - part.length)

/-- The words for infinity and for what is no number. -/
def readWord? (chars : List Char) : Option Float :=
  let word := String.ofList (chars.map Char.toLower)
  if word = "inf" ∨ word = "infinity" then some (1 / 0)
  else if word = "nan" then some (0 / 0)
  else none

/-- A number or a word without a sign. -/
def readMagnitude? (chars : List Char) : Option Float := readWord? chars <|> readUnsigned? chars

/-- The number that a text writes. -/
def read? (text : String) : Option Float :=
  match text.toList with
  | '-' :: rest => (readMagnitude? rest).map Float.neg
  | '+' :: rest => readMagnitude? rest
  | chars => readMagnitude? chars

end DocQuery.Decimal
