import DocQuery.Text.Bytes
import DocQuery.Text.Digits

/-!
# Escaping in addresses

Bytes that may not stand in a part of an address are written as a percent sign
and two hexadecimal digits. Which characters those are depends on the part; the
sets here are nested, each part escaping more than the one before it.
-/

namespace DocQuery.Cluster

/-- A hexadecimal digit in upper case. -/
def hexDigit (n : Nat) : Char := (Nat.digitChar n).toUpper

/-- A byte in its escaped form. -/
def escapeByte (byte : UInt8) : List Char :=
  ['%', hexDigit (byte.toNat / 16), hexDigit (byte.toNat % 16)]

/-- A character in its escaped form, byte by byte. -/
def escapeChar (c : Char) : List Char := (String.utf8EncodeChar c).flatMap escapeByte

/-- Escapes the characters of a set and leaves the others. -/
def escape (escaped : Char → Bool) (chars : List Char) : List Char :=
  chars.flatMap fun c => if escaped c then escapeChar c else [c]

/-- Controls and characters outside ASCII. -/
def isUnprintable (c : Char) : Bool := c.toNat < 0x20 || 0x7E < c.toNat

/-- What is escaped in a fragment. -/
def inFragment (c : Char) : Bool := isUnprintable c || " \"<>`".toList.contains c

/-- What is escaped in a query. -/
def inQuery (c : Char) : Bool := isUnprintable c || " \"#<>'".toList.contains c

/-- What is escaped in a path. -/
def inPath (c : Char) : Bool := isUnprintable c || " \"#<>?`\x7b\x7d".toList.contains c

/-- What is escaped in a segment that is appended to a path. -/
def inSegment (c : Char) : Bool := inPath c || "/%\\".toList.contains c

/-- What is escaped in a user name and in a password. -/
def inCredentials (c : Char) : Bool := inPath c || "/:;=@[\\]^|".toList.contains c

/-- One byte of a form value: a plus sign for a space, and few characters as they are. -/
def formByte (byte : UInt8) : List Char :=
  let c := Char.ofNat byte.toNat
  if c = ' ' then ['+']
  else if c.isAlphanum || "*-._".toList.contains c then [c]
  else escapeByte byte

/-- A form value. -/
def formEncode (text : String) : String := String.ofList ((Text.bytes text).flatMap formByte)

/-- The value of a hexadecimal digit. -/
def hexValue? (c : Char) : Option Nat :=
  if c.isDigit then some (c.toNat - '0'.toNat)
  else if 'a' ≤ c ∧ c ≤ 'f' then some (c.toNat - 'a'.toNat + 10)
  else if 'A' ≤ c ∧ c ≤ 'F' then some (c.toNat - 'A'.toNat + 10)
  else none

/-- The bytes that characters stand for, escaped or not. A percent sign without
two digits stands for itself. -/
def unescape : List Char → List UInt8
  | [] => []
  | '%' :: high :: low :: rest =>
    match hexValue? high, hexValue? low with
    | some h, some l => UInt8.ofNat (16 * h + l) :: unescape rest
    | _, _ => String.utf8EncodeChar '%' ++ unescape (high :: low :: rest)
  | c :: rest => String.utf8EncodeChar c ++ unescape rest

end DocQuery.Cluster
