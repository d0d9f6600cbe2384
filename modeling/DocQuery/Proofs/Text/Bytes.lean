import Mathlib.Tactic.IntervalCases
import DocQuery.Text.Bytes

/-!
# Reading back the bytes of a text

The bytes of a text are read back as the text (`Text.decodeLossy_bytes`), so no two texts
have the same bytes. A character is read back by itself, whatever follows: its first byte
says how many bytes it has (`utf8Lead_two`, `utf8Lead_three`, `utf8Lead_four`), and each of
the others adds six bits.
-/

namespace DocQuery.Text

/-- First bytes of two. -/
theorem utf8Lead_two {bits : Nat} (enough : 2 ≤ bits) (few : bits < 32) :
    utf8Lead (bits + 0xC0) = .lead (.inside bits 0 0x80 0xBF) := by
  interval_cases bits <;> rfl

/-- First bytes of three; the second byte excludes short codes and surrogates. -/
theorem utf8Lead_three {bits : Nat} (few : bits < 16) :
    utf8Lead (bits + 0xE0) = .lead (.inside bits 1 (if bits = 0 then 0xA0 else 0x80)
      (if bits = 0xD then 0x9F else 0xBF)) := by
  interval_cases bits <;> rfl

/-- First bytes of four; the second byte excludes short codes and those above the last one. -/
theorem utf8Lead_four {bits : Nat} (few : bits < 5) :
    utf8Lead (bits + 0xF0) = .lead (.inside bits 2 (if bits = 0 then 0x90 else 0x80)
      (if bits = 4 then 0x8F else 0xBF)) := by
  interval_cases bits <;> rfl

variable {byte : UInt8} {rest : List UInt8}

/-- A first byte asks for more bytes, as its class says. -/
theorem decodeFrom_lead {state : Utf8State} (leads : utf8Lead byte.toNat = .lead state) :
    decodeFrom (byte :: rest) .start = decodeFrom rest state := by
  rw [decodeFrom, decodeLead, leads]

/-- The last byte that was asked for completes a character. -/
theorem decodeFrom_last {value low high : Nat} (above : low ≤ byte.toNat)
    (below : byte.toNat ≤ high) :
    decodeFrom (byte :: rest) (.inside value 0 low high) =
      some (Char.ofNat (value * 64 + (byte.toNat - 0x80))) :: decodeFrom rest .start := by
  rw [decodeFrom, if_pos ⟨above, below⟩]

/-- A byte that was asked for together with others adds six bits. -/
theorem decodeFrom_next {value more low high : Nat} (above : low ≤ byte.toNat)
    (below : byte.toNat ≤ high) :
    decodeFrom (byte :: rest) (.inside value (more + 1) low high) =
      decodeFrom rest (.inside (value * 64 + (byte.toNat - 0x80)) more 0x80 0xBF) := by
  rw [decodeFrom, if_pos ⟨above, below⟩]

variable {code : Nat}

/-- A code of seven bits is read back from its byte. -/
theorem decodeFrom_one (small : code < 0x80) :
    decodeFrom (UInt8.ofNat code :: rest) .start =
      some (Char.ofNat code) :: decodeFrom rest .start := by
  have byte : (UInt8.ofNat code).toNat = code := by simp; omega
  rw [decodeFrom, decodeLead, byte, utf8Lead, if_pos small]

/-- A code of eleven bits is read back from its two bytes. -/
theorem decodeFrom_two (large : 0x80 ≤ code) (small : code < 0x800) :
    decodeFrom (UInt8.ofNat (code / 64 % 32 + 192) :: UInt8.ofNat (code % 64 + 128) :: rest)
        .start =
      some (Char.ofNat code) :: decodeFrom rest .start := by
  have first : (UInt8.ofNat (code / 64 % 32 + 192)).toNat = code / 64 % 32 + 192 := by simp; omega
  have second : (UInt8.ofNat (code % 64 + 128)).toNat = code % 64 + 128 := by simp; omega
  have whole : code / 64 % 32 * 64 + (code % 64 + 128 - 0x80) = code := by omega
  rw [decodeFrom_lead (first ▸ utf8Lead_two (by omega) (by omega)),
    decodeFrom_last (by omega) (by omega), second, whole]

/-- A code of sixteen bits is read back from its three bytes. -/
theorem decodeFrom_three (large : 0x800 ≤ code) (small : code < 0x10000)
    (proper : code < 0xD800 ∨ 0xDFFF < code) :
    decodeFrom (UInt8.ofNat (code / 4096 % 16 + 224) :: UInt8.ofNat (code / 64 % 64 + 128) ::
        UInt8.ofNat (code % 64 + 128) :: rest) .start =
      some (Char.ofNat code) :: decodeFrom rest .start := by
  have first : (UInt8.ofNat (code / 4096 % 16 + 224)).toNat = code / 4096 % 16 + 224 := by
    simp; omega
  have second : (UInt8.ofNat (code / 64 % 64 + 128)).toNat = code / 64 % 64 + 128 := by simp; omega
  have third : (UInt8.ofNat (code % 64 + 128)).toNat = code % 64 + 128 := by simp; omega
  have whole : (code / 4096 % 16 * 64 + (code / 64 % 64 + 128 - 0x80)) * 64 +
      (code % 64 + 128 - 0x80) = code := by omega
  rw [decodeFrom_lead (first ▸ utf8Lead_three (by omega)),
    decodeFrom_next (by split <;> omega) (by split <;> omega),
    decodeFrom_last (by omega) (by omega), second, third, whole]

/-- Any other code is read back from its four bytes. -/
theorem decodeFrom_four (large : 0x10000 ≤ code) (small : code < 0x110000) :
    decodeFrom (UInt8.ofNat (code / 262144 % 8 + 240) :: UInt8.ofNat (code / 4096 % 64 + 128) ::
        UInt8.ofNat (code / 64 % 64 + 128) :: UInt8.ofNat (code % 64 + 128) :: rest) .start =
      some (Char.ofNat code) :: decodeFrom rest .start := by
  have first : (UInt8.ofNat (code / 262144 % 8 + 240)).toNat = code / 262144 % 8 + 240 := by
    simp; omega
  have second : (UInt8.ofNat (code / 4096 % 64 + 128)).toNat = code / 4096 % 64 + 128 := by
    simp; omega
  have third : (UInt8.ofNat (code / 64 % 64 + 128)).toNat = code / 64 % 64 + 128 := by simp; omega
  have fourth : (UInt8.ofNat (code % 64 + 128)).toNat = code % 64 + 128 := by simp; omega
  have whole : ((code / 262144 % 8 * 64 + (code / 4096 % 64 + 128 - 0x80)) * 64 +
      (code / 64 % 64 + 128 - 0x80)) * 64 + (code % 64 + 128 - 0x80) = code := by omega
  rw [decodeFrom_lead (first ▸ utf8Lead_four (by omega)),
    decodeFrom_next (by split <;> omega) (by split <;> omega),
    decodeFrom_next (by omega) (by omega), decodeFrom_last (by omega) (by omega),
    second, third, fourth, whole]

/-- A character is read back from its bytes, whatever follows them. -/
theorem decodeFrom_utf8EncodeChar (c : Char) (rest : List UInt8) :
    decodeFrom (String.utf8EncodeChar c ++ rest) .start = some c :: decodeFrom rest .start := by
  have own : Char.ofNat c.val.toNat = c := Char.ofNat_toNat c
  have proper : c.val.toNat < 0xD800 ∨ 0xDFFF < c.val.toNat ∧ c.val.toNat < 0x110000 := c.valid
  rw [String.utf8EncodeChar]
  generalize c.val.toNat = code at own proper
  rw [← own]
  split
  case isTrue small => exact decodeFrom_one (by omega)
  case isFalse =>
    split
    case isTrue small => exact decodeFrom_two (by omega) (by omega)
    case isFalse =>
      split
      case isTrue small => exact decodeFrom_three (by omega) (by omega) (by omega)
      case isFalse => exact decodeFrom_four (by omega) (by omega)

/-- Characters are read back from their bytes. -/
theorem decodeFrom_encodeChars (chars : List Char) :
    decodeFrom (encodeChars chars) .start = chars.map some := by
  induction chars with
  | nil => rfl
  | cons c rest ih =>
      rw [encodeChars, List.flatMap_cons, decodeFrom_utf8EncodeChar, ← encodeChars, ih,
        List.map_cons]

/-- A character of seven bits is one byte. -/
theorem utf8EncodeChar_of_lt {c : Char} (small : c.toNat < 0x80) :
    String.utf8EncodeChar c = [UInt8.ofNat c.toNat] := by
  rw [String.utf8EncodeChar]
  exact if_pos (Nat.le_of_lt_succ small)

/-- A text is read back from its bytes. -/
theorem decodeLossy_bytes (text : String) : decodeLossy (bytes text) = text := by
  rw [decodeLossy, bytes, decodeFrom_encodeChars, List.map_map]
  simp [Function.comp_def]

/-- No two texts have the same bytes. -/
theorem bytes_injective : Function.Injective bytes := by
  intro text other same
  rw [← decodeLossy_bytes text, same, decodeLossy_bytes]

end DocQuery.Text
