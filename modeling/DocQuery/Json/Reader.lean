import DocQuery.Json.Basic
import DocQuery.Text.Bytes
import DocQuery.Text.Digits

/-!
# Reading JSON text

A reader over bytes that follows the JSON grammar strictly and names the place
of the first fault. Lines are counted from one and columns in bytes, so the
column of a fault is that of the last byte looked at.

Whole numbers between `-2^63` and `2^64 - 1` are read as such, and every other
number as a floating-point number. A repeated key keeps its first place and
takes the last value. Values nest at most 127 deep.
-/

namespace DocQuery.Json

/-- What the grammar does not allow. -/
inductive Fault where
  | endInValue
  | endInArray
  | endInObject
  | endInString
  | expectedColon
  | expectedItemEnd
  | expectedMemberEnd
  | expectedWord
  | expectedValue
  | invalidEscape
  | invalidNumber
  | numberOutOfRange
  | invalidCodePoint
  | controlCharacter
  | keyNotString
  | loneSurrogate
  | endInHexEscape
  | trailingComma
  | trailingCharacters
  | tooDeep
  /-- A value of the wrong sort where an object is required. -/
  | notAnObject (found : String)
  deriving DecidableEq, Repr

/-- The wording of a fault. -/
def Fault.message : Fault → String
  | .endInValue => "EOF while parsing a value"
  | .endInArray => "EOF while parsing a list"
  | .endInObject => "EOF while parsing an object"
  | .endInString => "EOF while parsing a string"
  | .expectedColon => "expected `:`"
  | .expectedItemEnd => "expected `,` or `]`"
  | .expectedMemberEnd => "expected `,` or `\x7d`"
  | .expectedWord => "expected ident"
  | .expectedValue => "expected value"
  | .invalidEscape => "invalid escape"
  | .invalidNumber => "invalid number"
  | .numberOutOfRange => "number out of range"
  | .invalidCodePoint => "invalid unicode code point"
  | .controlCharacter =>
    "control character (\\u0000-\\u001F) found while parsing a string"
  | .keyNotString => "key must be a string"
  | .loneSurrogate => "lone leading surrogate in hex escape"
  | .endInHexEscape => "unexpected end of hex escape"
  | .trailingComma => "trailing comma"
  | .trailingCharacters => "trailing characters"
  | .tooDeep => "recursion limit exceeded"
  | .notAnObject found => "invalid type: " ++ found ++ ", expected a map"

/-- A fault and its place. -/
structure ReadError where
  fault : Fault
  line : Nat
  column : Nat
  deriving DecidableEq, Repr

/-- The wording of a fault with its place. -/
def ReadError.message (error : ReadError) : String :=
  error.fault.message ++ " at line " ++ Text.natText error.line ++ " column " ++
    Text.natText error.column

/-- The bytes still to be read, and the place reached. -/
structure Cursor where
  rest : List UInt8
  line : Nat
  column : Nat

namespace Cursor

/-- The place before the first byte. -/
def start (bytes : List UInt8) : Cursor := ⟨bytes, 1, 0⟩

/-- The place after the next byte; the end stays where it is. -/
def advance (cursor : Cursor) : Cursor :=
  match cursor.rest with
  | [] => cursor
  | byte :: rest =>
    if byte = 10 then ⟨rest, cursor.line + 1, 0⟩ else ⟨rest, cursor.line, cursor.column + 1⟩

/-- The place after a number of bytes. -/
def skip (cursor : Cursor) : Nat → Cursor
  | 0 => cursor
  | count + 1 => cursor.advance.skip count

/-- The next byte. -/
def peek? (cursor : Cursor) : Option UInt8 := cursor.rest.head?

/-- A fault at the place reached. -/
def fail {α : Type} (cursor : Cursor) (fault : Fault) : Except ReadError α :=
  .error ⟨fault, cursor.line, cursor.column⟩

/-- A fault at the next byte. -/
def failNext {α : Type} (cursor : Cursor) (fault : Fault) : Except ReadError α :=
  cursor.advance.fail fault

/-- The place of the next byte that is not a space, a tab or a line break. -/
def skipBlank (cursor : Cursor) : Cursor :=
  cursor.skip (cursor.rest.takeWhile fun b => b = 32 || b = 9 || b = 10 || b = 13).length

/-- The digits that come next. -/
def digits (cursor : Cursor) : List UInt8 :=
  cursor.rest.takeWhile fun b => 48 ≤ b && b ≤ 57

end Cursor

/-- Reads the rest of a word whose first letter has been read. -/
def readWord (value : Json) : List UInt8 → Cursor → Except ReadError (Json × Cursor)
  | [], cursor => .ok (value, cursor)
  | expected :: word, cursor =>
    match cursor.peek? with
    | none => cursor.fail .endInValue
    | some byte =>
      if byte = expected then readWord value word cursor.advance
      else cursor.failNext .expectedWord

/-- Appends digits to a value while the result stays at most `limit`; also
counts the digits taken. -/
def absorb (limit : Nat) : List UInt8 → (value taken : Nat) → Nat × Nat
  | [], value, taken => (value, taken)
  | digit :: rest, value, taken =>
    let next := value * 10 + (digit.toNat - 48)
    if limit < next then (value, taken) else absorb limit rest next (taken + 1)

/-- `10 ^ n` as a floating-point number. -/
def powerOfTen (n : Nat) : Float := Float.ofScientific 1 false n

/-- Multiplies or divides by a power of ten, in steps of at most `1e308`.
Overflow has no value. -/
def scaleByTen (x : Float) (exponent : Int) : Option Float :=
  if exponent.natAbs ≤ 308 then
    if 0 ≤ exponent then
      let scaled := x * powerOfTen exponent.toNat
      if scaled.isFinite then some scaled else none
    else
      some (x / powerOfTen exponent.natAbs)
  else if x == 0 then some x
  else if 0 ≤ exponent then none
  else scaleByTen (x / powerOfTen 308) (exponent + 308)
termination_by exponent.natAbs
decreasing_by omega

/-- A floating-point number from its sign, significand and exponent of ten. -/
def readFloat (cursor : Cursor) (negative : Bool) (significand : Nat) (exponent : Int) :
    Except ReadError (Json × Cursor) :=
  match scaleByTen (Float.ofNat significand) exponent with
  | some x => .ok (.number (.float (if negative then -x else x)), cursor)
  | none => cursor.fail .numberOutOfRange

/-- A whole number; minus zero, and negative numbers below the least 64-bit
integer, are floating-point numbers. -/
def wholeNumber (negative : Bool) (value : Nat) : Number :=
  if negative then
    if value = 0 ∨ 0x8000_0000_0000_0000 < value then .float (-Float.ofNat value)
    else .int (-(value : Int))
  else .int value

/-- Reads the exponent after its mark. -/
def readExponent (cursor : Cursor) (negative : Bool) (significand : Nat) (exponent : Int) :
    Except ReadError (Json × Cursor) :=
  let down := cursor.peek? = some 45
  let cursor := if down || cursor.peek? = some 43 then cursor.advance else cursor
  match cursor.digits with
  | [] =>
    match cursor.peek? with
    | none => cursor.fail .endInValue
    | some _ => cursor.failNext .invalidNumber
  | digits =>
    let (value, taken) := absorb 0x7fff_ffff digits 0 0
    if taken < digits.length then
      if significand ≠ 0 ∧ !down then (cursor.skip (taken + 1)).fail .numberOutOfRange
      else .ok (.number (.float (if negative then -0.0 else 0.0)), cursor.skip digits.length)
    else
      readFloat (cursor.skip digits.length) negative significand
        (if down then exponent - value else exponent + value)

/-- Reads what may follow the digits before the point. -/
def readFraction (cursor : Cursor) (negative : Bool) (significand dropped : Nat) :
    Except ReadError (Json × Cursor) :=
  match cursor.peek? with
  | some 46 =>
    let cursor := cursor.advance
    let digits := cursor.digits
    if digits.isEmpty then
      cursor.failNext (if cursor.rest.isEmpty then .endInValue else .invalidNumber)
    else
      let (significand, taken) := absorb 0xffff_ffff_ffff_ffff digits significand 0
      let exponent : Int := (dropped : Int) - taken
      let cursor := cursor.skip digits.length
      match cursor.peek? with
      | some 69 | some 101 => readExponent cursor.advance negative significand exponent
      | _ => readFloat cursor negative significand exponent
  | some 69 | some 101 => readExponent cursor.advance negative significand dropped
  | _ =>
    if dropped = 0 then .ok (.number (wholeNumber negative significand), cursor)
    else readFloat cursor negative significand dropped

/-- Reads a number after its sign. -/
def readNumber (cursor : Cursor) (negative : Bool) : Except ReadError (Json × Cursor) :=
  match cursor.digits with
  | [] =>
    match cursor.peek? with
    | none => cursor.fail .endInValue
    | some _ => cursor.failNext .invalidNumber
  | 48 :: _ :: _ => cursor.advance.failNext .invalidNumber
  | digits =>
    let (significand, taken) := absorb 0xffff_ffff_ffff_ffff digits 0 0
    readFraction (cursor.skip digits.length) negative significand (digits.length - taken)

/-- The value of a hexadecimal digit. -/
def hexValue? (byte : UInt8) : Option Nat :=
  if 48 ≤ byte && byte ≤ 57 then some (byte.toNat - 48)
  else if 65 ≤ byte && byte ≤ 70 then some (byte.toNat - 55)
  else if 97 ≤ byte && byte ≤ 102 then some (byte.toNat - 87)
  else none

/-- Reads four hexadecimal digits. -/
def readHex (cursor : Cursor) : Except ReadError (Nat × Cursor) :=
  match cursor.rest with
  | a :: b :: c :: d :: _ =>
    match hexValue? a, hexValue? b, hexValue? c, hexValue? d with
    | some a, some b, some c, some d =>
      .ok (((a * 16 + b) * 16 + c) * 16 + d, cursor.skip 4)
    | _, _, _, _ => (cursor.skip 4).fail .invalidEscape
  | short => (cursor.skip short.length).fail .endInString

/-- Reads an escape written in hexadecimal digits; a character above U+FFFF is
written as two surrogates. -/
def readUnicodeEscape (cursor : Cursor) : Except ReadError (List UInt8 × Cursor) := do
  let (high, cursor) ← readHex cursor
  if 0xDC00 ≤ high ∧ high ≤ 0xDFFF then cursor.fail .loneSurrogate
  else if high < 0xD800 ∨ 0xDBFF < high then
    .ok (String.utf8EncodeChar (Char.ofNat high), cursor)
  else
    match cursor.rest with
    | [] => cursor.fail .endInString
    | 92 :: [] => cursor.advance.fail .endInString
    | 92 :: 117 :: _ =>
      let (low, cursor) ← readHex (cursor.skip 2)
      if low < 0xDC00 ∨ 0xDFFF < low then cursor.fail .loneSurrogate
      else
        let code := (high - 0xD800) * 0x400 + (low - 0xDC00) + 0x10000
        .ok (String.utf8EncodeChar (Char.ofNat code), cursor)
    | 92 :: _ => cursor.advance.failNext .endInHexEscape
    | _ => cursor.failNext .endInHexEscape

/-- Reads an escape after its backslash. -/
def readEscape (cursor : Cursor) : Except ReadError (List UInt8 × Cursor) :=
  match cursor.peek? with
  | none => cursor.fail .endInString
  | some 34 => .ok ([34], cursor.advance)
  | some 92 => .ok ([92], cursor.advance)
  | some 47 => .ok ([47], cursor.advance)
  | some 98 => .ok ([8], cursor.advance)
  | some 102 => .ok ([12], cursor.advance)
  | some 110 => .ok ([10], cursor.advance)
  | some 114 => .ok ([13], cursor.advance)
  | some 116 => .ok ([9], cursor.advance)
  | some 117 => readUnicodeEscape cursor.advance
  | some _ => cursor.failNext .invalidEscape

/-- Reads string bytes up to the closing quote. Every round takes a byte, so
the number of bytes left bounds the rounds. -/
def readStringBytes : (fuel : Nat) → Cursor → List UInt8 → Except ReadError (List UInt8 × Cursor)
  | 0, cursor, _ => cursor.fail .endInString
  | fuel + 1, cursor, taken =>
    match cursor.peek? with
    | none => cursor.fail .endInString
    | some 34 => .ok (taken.reverse, cursor.advance)
    | some 92 => do
      let (bytes, cursor) ← readEscape cursor.advance
      readStringBytes fuel cursor (bytes.reverse ++ taken)
    | some byte =>
      if byte < 32 then cursor.failNext .controlCharacter
      else readStringBytes fuel cursor.advance (byte :: taken)

/-- Reads a string after its opening quote. -/
def readString (cursor : Cursor) : Except ReadError (String × Cursor) := do
  let (bytes, cursor) ← readStringBytes (cursor.rest.length + 1) cursor []
  match Text.decode? bytes with
  | some text => .ok (text, cursor)
  | none => cursor.fail .invalidCodePoint

/-- Whether the bytes begin with a well-formed character. -/
def startsCharacter (bytes : List UInt8) : Bool :=
  match Text.decodeFrom (bytes.take 4) .start with
  | some _ :: _ => true
  | _ => false

mutual

/-- Reads a value. `depth` is how many more levels may be entered, counting
one that may not; `fuel` is at least twice the number of bytes left. -/
def readValue : (fuel depth : Nat) → Cursor → Except ReadError (Json × Cursor)
  | 0, _, cursor => cursor.fail .endInValue
  | fuel + 1, depth, cursor =>
    let cursor := cursor.skipBlank
    match cursor.peek? with
    | none => cursor.fail .endInValue
    | some 110 => readWord .null [117, 108, 108] cursor.advance
    | some 116 => readWord (.bool true) [114, 117, 101] cursor.advance
    | some 102 => readWord (.bool false) [97, 108, 115, 101] cursor.advance
    | some 45 => readNumber cursor.advance true
    | some 34 => do
      let (text, cursor) ← readString cursor.advance
      .ok (.string text, cursor)
    | some 91 =>
      if depth ≤ 1 then cursor.failNext .tooDeep
      else do
        let (items, cursor) ← readItems fuel (depth - 1) cursor.advance true
        .ok (.array items, cursor)
    | some 123 =>
      if depth ≤ 1 then cursor.failNext .tooDeep
      else do
        let (members, cursor) ← readMembers fuel (depth - 1) cursor.advance true []
        .ok (.object members, cursor)
    | some byte =>
      if 48 ≤ byte && byte ≤ 57 then readNumber cursor false
      else if startsCharacter cursor.rest then cursor.failNext .expectedValue
      else cursor.failNext .invalidCodePoint

/-- Reads the items of an array up to its end. -/
def readItems : (fuel depth : Nat) → Cursor → (first : Bool) →
    Except ReadError (List Json × Cursor)
  | 0, _, cursor, _ => cursor.fail .endInArray
  | fuel + 1, depth, cursor, first =>
    let cursor := cursor.skipBlank
    match cursor.peek? with
    | none => cursor.fail .endInArray
    | some 93 => .ok ([], cursor.advance)
    | some byte => do
      let cursor ←
        if first then .ok cursor
        else if byte = 44 then
          let cursor := cursor.advance.skipBlank
          match cursor.peek? with
          | some 93 => cursor.failNext .trailingComma
          | none => cursor.fail .endInValue
          | some _ => .ok cursor
        else cursor.failNext .expectedItemEnd
      let (item, cursor) ← readValue fuel depth cursor
      let (items, cursor) ← readItems fuel depth cursor false
      .ok (item :: items, cursor)

/-- Reads the members of an object up to its end, after those already read. -/
def readMembers : (fuel depth : Nat) → Cursor → (first : Bool) → List (String × Json) →
    Except ReadError (List (String × Json) × Cursor)
  | 0, _, cursor, _, _ => cursor.fail .endInObject
  | fuel + 1, depth, cursor, first, members =>
    let cursor := cursor.skipBlank
    match cursor.peek? with
    | none => cursor.fail .endInObject
    | some 125 => .ok (members, cursor.advance)
    | some byte => do
      let cursor ←
        if first then
          if byte = 34 then .ok cursor else cursor.failNext .keyNotString
        else if byte = 44 then
          let cursor := cursor.advance.skipBlank
          match cursor.peek? with
          | some 34 => .ok cursor
          | some 125 => cursor.failNext .trailingComma
          | none => cursor.fail .endInValue
          | some _ => cursor.failNext .keyNotString
        else cursor.failNext .expectedMemberEnd
      let (key, cursor) ← readString cursor.advance
      let cursor := cursor.skipBlank
      match cursor.peek? with
      | some 58 => do
        let (value, cursor) ← readValue fuel depth cursor.advance
        readMembers fuel depth cursor false (Entries.put key value members)
      | none => cursor.fail .endInObject
      | some _ => cursor.failNext .expectedColon

end

/-- The number of levels that may be entered, counting one that may not. -/
def depthLimit : Nat := 128

/-- Reads a value and the white space around it, up to the end. -/
def readOne (bytes : List UInt8)
    (value : Cursor → Except ReadError (Json × Cursor)) : Except ReadError Json := do
  let (value, cursor) ← value (.start bytes)
  let cursor := cursor.skipBlank
  match cursor.peek? with
  | none => .ok value
  | some _ => cursor.failNext .trailingCharacters

/-- The value that a byte sequence writes. -/
def read (bytes : List UInt8) : Except ReadError Json :=
  readOne bytes (readValue (2 * bytes.length + 2) depthLimit)

/-- The value that a text writes. -/
def readText (text : String) : Except ReadError Json := read (Text.bytes text)

end DocQuery.Json
