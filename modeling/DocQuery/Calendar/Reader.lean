import DocQuery.Calendar.Instant
import DocQuery.Json.Basic
import DocQuery.Text.Blank
import DocQuery.Text.Digits

/-!
# Reading instants

Stored dates come in four forms, tried in this order: date and time of day with
an offset, in fixed widths; date and time of day in universal time; a date; and
milliseconds since the start of 1970. The second and the third form allow white
space in front of every number and numbers with fewer digits.
-/

namespace DocQuery.Instant

/-- Takes a given character. -/
def expect (c : Char) : List Char → Option (List Char)
  | d :: rest => if d = c then some rest else none
  | [] => none

/-- Takes as many digits as there are, at least one and at most `most`. -/
def readUpTo (most : Nat) (chars : List Char) : Option (Nat × List Char) :=
  let digits := (chars.take most).takeWhile Char.isDigit
  if digits.isEmpty then none else some (Text.digitsValue digits 0, chars.drop digits.length)

/-- Takes exactly `count` digits. -/
def readExactly (count : Nat) (chars : List Char) : Option (Nat × List Char) :=
  let digits := chars.take count
  if digits.length = count ∧ digits.all Char.isDigit then
    some (Text.digitsValue digits 0, chars.drop count)
  else none

/-- The nanoseconds of the digits after a point; digits beyond the ninth do not count. -/
def fractionValue (digits : List Char) : Nat :=
  Text.digitsValue (digits.take 9) 0 * Nat.pow 10 (9 - (digits.take 9).length)

/-- Takes a point and the digits behind it, if there is a point. -/
def readFraction : List Char → Option (Nat × List Char)
  | '.' :: rest =>
    let digits := rest.takeWhile Char.isDigit
    if digits.isEmpty then none else some (fractionValue digits, rest.drop digits.length)
  | chars => some (0, chars)

/-- How the parts of a form are written. -/
structure Form where
  year : List Char → Option (Int × List Char)
  /-- Month, day, hour, minute and second. -/
  pair : List Char → Option (Nat × List Char)

/-- A date in a form. -/
def Form.readDate (form : Form) (chars : List Char) : Option (Date × List Char) := do
  let (year, chars) ← form.year chars
  let (month, chars) ← form.pair (← expect '-' chars)
  let (day, chars) ← form.pair (← expect '-' chars)
  some (⟨year, month, day⟩, chars)

/-- A time of day in a form. -/
def Form.readTime (form : Form) (chars : List Char) : Option (TimeOfDay × List Char) := do
  let (hour, chars) ← form.pair chars
  let (minute, chars) ← form.pair (← expect ':' chars)
  let (second, chars) ← form.pair (← expect ':' chars)
  let (nanosecond, chars) ← readFraction chars
  some (⟨hour, minute, second, nanosecond⟩, chars)

/-- Four digits for the year and two for every other number. -/
def fixedForm : Form where
  year chars := (readExactly 4 chars).map fun (year, rest) => (Int.ofNat year, rest)
  pair := readExactly 2

/-- A year of up to four digits, or of any number of them after a sign. -/
def readLaxYear (chars : List Char) : Option (Int × List Char) :=
  match Text.trimStart chars with
  | '-' :: rest => (readUpTo rest.length rest).map fun (year, rest) => (-(year : Int), rest)
  | '+' :: rest => (readUpTo rest.length rest).map fun (year, rest) => (Int.ofNat year, rest)
  | chars => (readUpTo 4 chars).map fun (year, rest) => (Int.ofNat year, rest)

/-- White space in front of every number, and fewer digits. -/
def laxForm : Form where
  year := readLaxYear
  pair chars := readUpTo 2 (Text.trimStart chars)

/-- Takes the mark between date and time of day. -/
def readSeparator : List Char → Option (List Char)
  | c :: rest => if c = 'T' ∨ c = 't' ∨ c = ' ' then some rest else none
  | [] => none

/-- The sign of an offset. -/
def offsetSign? (c : Char) : Option Int :=
  if c = '+' then some 1 else if c = '-' ∨ c = '\u2212' then some (-1) else none

/-- Takes an offset from universal time, in seconds. -/
def readOffset : List Char → Option (Int × List Char)
  | [] => none
  | c :: rest =>
    if c = 'Z' ∨ c = 'z' then some (0, rest)
    else do
      let sign ← offsetSign? c
      let (hours, rest) ← readExactly 2 rest
      let (minutes, rest) ← readExactly 2 (← expect ':' rest)
      if hours ≤ 23 ∧ minutes ≤ 59 then
        some (sign * (hours * 3600 + minutes * 60 : Nat), rest)
      else none

/-- Date and time of day with an offset. -/
def readWithOffset? (chars : List Char) : Option Instant := do
  let (date, chars) ← fixedForm.readDate chars
  let (time, chars) ← fixedForm.readTime (← readSeparator chars)
  let (offset, chars) ← readOffset chars
  if chars.isEmpty then ofLocal? date time offset else none

/-- Date and time of day in universal time. -/
def readUniversal? (chars : List Char) : Option Instant := do
  let (date, chars) ← laxForm.readDate chars
  let (time, chars) ← laxForm.readTime (← expect 'T' chars)
  if chars.isEmpty then ofLocal? date time 0 else none

/-- The start of a date in universal time. -/
def readDateOnly? (chars : List Char) : Option Instant := do
  let (date, chars) ← laxForm.readDate chars
  if chars.isEmpty then ofLocal? date .midnight 0 else none

/-- Milliseconds since the start of 1970, in a signed 64-bit word. -/
def readMilliseconds? (chars : List Char) : Option Instant := do
  let milliseconds ← Text.readSigned? chars
  let word ← (Number.int milliseconds).asInt64?
  ofMilliseconds? word

/-- The instant that characters write, in the first form that fits. -/
def readChars? (chars : List Char) : Option Instant :=
  readWithOffset? chars <|> readUniversal? chars <|> readDateOnly? chars <|>
    readMilliseconds? chars

/-- The instant that a text writes. -/
def read? (text : String) : Option Instant := readChars? text.toList

/-- The instant of a stored date: a text, or whole milliseconds. -/
def ofJson? : Json → Option Instant
  | .string text => read? text
  | .number number => number.asInt64?.bind ofMilliseconds?
  | _ => none

end DocQuery.Instant
