/-!
# Text as bytes

UTF-8 in both directions. Decoding accepts every byte sequence: each maximal
ill-formed part counts as one place where a character is missing, which
`decodeLossy` fills with U+FFFD and `decode?` refuses.
-/

namespace DocQuery.Text

/-- The UTF-8 bytes of a list of characters. -/
def encodeChars (chars : List Char) : List UInt8 := chars.flatMap String.utf8EncodeChar

/-- The UTF-8 bytes of a text. -/
def bytes (text : String) : List UInt8 := encodeChars text.toList

/-- What the bytes read so far demand of the next one. -/
inductive Utf8State where
  /-- The next byte starts a character. -/
  | start
  /-- `more + 1` bytes are missing, the next one between `low` and `high`;
  `value` holds the bits read so far. -/
  | inside (value more low high : Nat)

/-- A byte that starts a character, an ASCII character, or neither. -/
inductive Utf8Lead where
  | ascii (c : Char)
  | lead (state : Utf8State)
  | stray

/-- Classifies a byte in first position; the bounds on the second byte exclude
overlong forms, surrogates and values above U+10FFFF. -/
def utf8Lead (byte : Nat) : Utf8Lead :=
  if byte < 0x80 then .ascii (Char.ofNat byte)
  else if byte < 0xC2 then .stray
  else if byte < 0xE0 then .lead (.inside (byte - 0xC0) 0 0x80 0xBF)
  else if byte = 0xE0 then .lead (.inside 0 1 0xA0 0xBF)
  else if byte = 0xED then .lead (.inside 0xD 1 0x80 0x9F)
  else if byte < 0xF0 then .lead (.inside (byte - 0xE0) 1 0x80 0xBF)
  else if byte = 0xF0 then .lead (.inside 0 2 0x90 0xBF)
  else if byte < 0xF4 then .lead (.inside (byte - 0xF0) 2 0x80 0xBF)
  else if byte = 0xF4 then .lead (.inside 4 2 0x80 0x8F)
  else .stray

/-- Decodes a byte in first position, in front of the decoded rest. -/
def decodeLead (byte : Nat) (rest : Utf8State → List (Option Char)) : List (Option Char) :=
  match utf8Lead byte with
  | .ascii c => some c :: rest .start
  | .lead state => rest state
  | .stray => none :: rest .start

/-- The characters of a byte sequence, `none` for each ill-formed part. -/
def decodeFrom : List UInt8 → Utf8State → List (Option Char)
  | [], .start => []
  | [], .inside .. => [none]
  | byte :: rest, .start => decodeLead byte.toNat (decodeFrom rest)
  | byte :: rest, .inside value more low high =>
    if low ≤ byte.toNat ∧ byte.toNat ≤ high then
      let value := value * 64 + (byte.toNat - 0x80)
      match more with
      | 0 => some (Char.ofNat value) :: decodeFrom rest .start
      | more + 1 => decodeFrom rest (.inside value more 0x80 0xBF)
    else
      none :: decodeLead byte.toNat (decodeFrom rest)

/-- The text of a byte sequence, U+FFFD in place of each ill-formed part. -/
def decodeLossy (bytes : List UInt8) : String :=
  String.ofList ((decodeFrom bytes .start).map fun c => c.getD '\uFFFD')

/-- The text of a byte sequence, if it is well formed. -/
def decode? (bytes : List UInt8) : Option String :=
  ((decodeFrom bytes .start).mapM id).map String.ofList

end DocQuery.Text
