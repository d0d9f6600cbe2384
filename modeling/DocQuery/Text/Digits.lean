/-!
# Decimal digits

Whole numbers as decimal text: writing with an optional minimum width, and
reading with an optional sign. Only the ASCII digits count as digits.
-/

namespace DocQuery.Text

/-- The value of an ASCII digit. -/
def digitValue (c : Char) : Nat := c.toNat - '0'.toNat

/-- The value of a run of ASCII digits, read after the value of the digits before it. -/
def digitsValue (digits : List Char) (before : Nat) : Nat :=
  digits.foldl (fun value digit => value * 10 + digitValue digit) before

/-- The decimal digits of a natural number. -/
def natDigits (n : Nat) : List Char := Nat.toDigits 10 n

/-- The decimal digits with zeros in front up to `width`. -/
def paddedDigits (width n : Nat) : List Char :=
  let digits := natDigits n
  List.replicate (width - digits.length) '0' ++ digits

/-- The decimal text of a natural number. -/
def natText (n : Nat) : String := String.ofList (natDigits n)

/-- The decimal text of an integer, with a minus sign if it is negative. -/
def intText : Int → String
  | .ofNat n => natText n
  | .negSucc n => "-" ++ natText (n + 1)

/-- Reads a text that holds nothing but digits, and at least one. -/
def readNat? (chars : List Char) : Option Nat :=
  if chars.isEmpty || !chars.all Char.isDigit then none else some (digitsValue chars 0)

/-- Reads a natural number with an optional plus sign. -/
def readUnsigned? : List Char → Option Nat
  | '+' :: rest => readNat? rest
  | chars => readNat? chars

/-- Reads an integer with an optional sign. -/
def readSigned? : List Char → Option Int
  | '-' :: rest => (readNat? rest).map fun n => -(n : Int)
  | chars => (readUnsigned? chars).map Int.ofNat

end DocQuery.Text
