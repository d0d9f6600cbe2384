import Mathlib.Tactic.IntervalCases
import DocQuery.Cluster.Encoding
import DocQuery.Proofs.Text.Bytes

/-!
# Reading escaped text

Escaping loses nothing: where the percent sign itself is escaped, the bytes that escaped
text stands for are those of the text (`unescape_escape`). Form values likewise are read
back as they were written (`formDecode_formEncode`). What a set escapes does not occur in
the result, so escaped text does not run into what separates it.
-/

namespace DocQuery.Cluster

/-- The text that a form value stands for. -/
def formDecode (chars : List Char) : String :=
  Text.decodeLossy (unescape (chars.map fun c => if c = '+' then ' ' else c))

/-- A hexadecimal digit is read as what it was written for. -/
theorem hexValue?_hexDigit {n : Nat} (digit : n < 16) : hexValue? (hexDigit n) = some n := by
  interval_cases n <;> rfl

/-- Hexadecimal digits are letters and digits. -/
theorem isAlphanum_hexDigit {n : Nat} (digit : n < 16) : (hexDigit n).isAlphanum = true := by
  interval_cases n <;> rfl

/-- A percent sign and letters and digits are all that stands in an escaped byte. -/
theorem isAlphanum_of_mem_escapeByte {byte : UInt8} {c : Char} (member : c ∈ escapeByte byte) :
    c = '%' ∨ c.isAlphanum = true := by
  have bounded := byte.toNat_lt
  simp only [escapeByte, List.mem_cons, List.not_mem_nil, or_false] at member
  rcases member with rfl | rfl | rfl
  · exact .inl rfl
  · exact .inr (isAlphanum_hexDigit (by omega))
  · exact .inr (isAlphanum_hexDigit (by omega))

/-- Any character but a percent sign stands for itself. -/
theorem unescape_cons {c : Char} (plain : c ≠ '%') (rest : List Char) :
    unescape (c :: rest) = String.utf8EncodeChar c ++ unescape rest := by
  rw [unescape]
  rintro high low later rfl
  exact absurd rfl plain

/-- An escaped byte stands for the byte. -/
theorem unescape_escapeByte (byte : UInt8) (rest : List Char) :
    unescape (escapeByte byte ++ rest) = byte :: unescape rest := by
  have bounded := byte.toNat_lt
  have whole : 16 * (byte.toNat / 16) + byte.toNat % 16 = byte.toNat := by omega
  simp only [escapeByte, List.cons_append, List.nil_append, unescape,
    hexValue?_hexDigit (show byte.toNat / 16 < 16 by omega),
    hexValue?_hexDigit (show byte.toNat % 16 < 16 by omega), whole, UInt8.ofNat_toNat]

/-- Escaped bytes stand for the bytes. -/
theorem unescape_flatMap_escapeByte (bytes : List UInt8) (rest : List Char) :
    unescape (bytes.flatMap escapeByte ++ rest) = bytes ++ unescape rest := by
  induction bytes with
  | nil => rfl
  | cons byte later ih =>
      rw [List.flatMap_cons, List.append_assoc, unescape_escapeByte, ih, List.cons_append]

/-- Escaped text stands for the bytes of the text, if percent signs are escaped. -/
theorem unescape_escape {escaped : Char → Bool} (percent : escaped '%' = true)
    (chars : List Char) : unescape (escape escaped chars) = Text.encodeChars chars := by
  induction chars with
  | nil => rfl
  | cons c rest ih =>
      rw [escape, List.flatMap_cons, ← escape, Text.encodeChars, List.flatMap_cons,
        ← Text.encodeChars]
      by_cases replaced : escaped c = true
      · rw [if_pos replaced, escapeChar, unescape_flatMap_escapeByte, ih]
      · have plain : c ≠ '%' := by
          rintro rfl
          exact replaced percent
        rw [if_neg replaced, List.singleton_append, unescape_cons plain, ih]

/-- What is escaped does not occur in escaped text, unless as part of an escape. -/
theorem not_mem_escape {escaped : Char → Bool} {c : Char} (replaced : escaped c = true)
    (sign : c ≠ '%') (mark : c.isAlphanum = false) (chars : List Char) :
    c ∉ escape escaped chars := by
  intro member
  obtain ⟨other, _, inside⟩ := List.mem_flatMap.mp member
  by_cases otherReplaced : escaped other = true
  · rw [if_pos otherReplaced] at inside
    obtain ⟨byte, _, part⟩ := List.mem_flatMap.mp inside
    rcases isAlphanum_of_mem_escapeByte part with percent | alphanumeric
    · exact sign percent
    · rw [mark] at alphanumeric
      cases alphanumeric
  · rw [if_neg otherReplaced, List.mem_singleton] at inside
    exact otherReplaced (inside ▸ replaced)

/-- Letters and digits are among the first codes. -/
theorem toNat_lt_of_isAlphanum {c : Char} (alphanumeric : c.isAlphanum = true) :
    c.toNat < 0x80 := by
  unfold Char.isAlphanum Char.isAlpha Char.isUpper Char.isLower Char.isDigit at alphanumeric
  simp only [Bool.or_eq_true, decide_eq_true_eq, Bool.and_eq_true, UInt32.le_iff_toNat_le,
    ge_iff_le] at alphanumeric
  show c.val.toNat < 0x80
  have : 'Z'.val.toNat = 90 := rfl
  have : 'z'.val.toNat = 122 := rfl
  have : '9'.val.toNat = 57 := rfl
  omega

/-- A byte below the surrogates is the code of a character. -/
theorem toNat_ofNat_byte (byte : UInt8) : (Char.ofNat byte.toNat).toNat = byte.toNat := by
  have bounded := byte.toNat_lt
  rw [Char.ofNat, dif_pos (Or.inl (by omega))]
  rfl

/-- The characters of a form value: a plus sign, others that are left as they are, and those
of escaped bytes. -/
theorem formByte_cases (byte : UInt8) :
    (byte = 32 ∧ formByte byte = ['+']) ∨
      (∃ c : Char, c.toNat = byte.toNat ∧ (c.isAlphanum = true ∨ c ∈ ['*', '-', '.', '_']) ∧
        formByte byte = [c]) ∨
      formByte byte = escapeByte byte := by
  have code := toNat_ofNat_byte byte
  rw [formByte]
  split
  case isTrue space =>
    refine .inl ⟨?_, rfl⟩
    rw [space] at code
    exact UInt8.toNat_inj.mp code.symm
  case isFalse =>
    split
    case isTrue kept =>
      refine .inr (.inl ⟨_, code, ?_, rfl⟩)
      simpa using kept
    case isFalse => exact .inr (.inr rfl)

/-- A byte is read back from its part of a form value. -/
theorem unescape_formByte (byte : UInt8) (rest : List Char) :
    unescape ((formByte byte ++ rest).map fun c => if c = '+' then ' ' else c) =
      byte :: unescape (rest.map fun c => if c = '+' then ' ' else c) := by
  rw [List.map_append]
  rcases formByte_cases byte with ⟨rfl, plus⟩ | ⟨c, code, kept, same⟩ | replaced
  · rw [plus]
    exact unescape_cons (by decide) _
  · have plain : c ≠ '+' ∧ c ≠ '%' := by
      constructor <;> rintro rfl <;> revert kept <;> decide
    have ascii : c.toNat < 0x80 := by
      rcases kept with alphanumeric | listed
      · exact toNat_lt_of_isAlphanum alphanumeric
      · simp only [List.mem_cons, List.not_mem_nil, or_false] at listed
        rcases listed with rfl | rfl | rfl | rfl <;> decide
    rw [same, List.map_singleton, if_neg plain.1, List.singleton_append, unescape_cons plain.2,
      Text.utf8EncodeChar_of_lt ascii, code, UInt8.ofNat_toNat]
    rfl
  · have unchanged : (escapeByte byte).map (fun c => if c = '+' then ' ' else c) =
        escapeByte byte := by
      refine (List.map_congr_left fun c member => if_neg ?_).trans (List.map_id _)
      rintro rfl
      rcases isAlphanum_of_mem_escapeByte member with percent | alphanumeric
      · exact absurd percent (by decide)
      · exact absurd alphanumeric (by decide)
    rw [replaced, unchanged, unescape_escapeByte]

/-- A form value stands for the text that it was written for. -/
theorem formDecode_formEncode (text : String) : formDecode (formEncode text).toList = text := by
  have read : ∀ bytes : List UInt8,
      unescape ((bytes.flatMap formByte).map fun c => if c = '+' then ' ' else c) = bytes := by
    intro bytes
    induction bytes with
    | nil => rfl
    | cons byte rest ih => rw [List.flatMap_cons, unescape_formByte, ih]
  rw [formDecode, formEncode, String.toList_ofList, read, Text.decodeLossy_bytes]

/-- What is not kept does not occur in a form value, unless as part of an escape. -/
theorem not_mem_formEncode {c : Char} (foreign : c ∉ ['+', '%', '*', '-', '.', '_'])
    (mark : c.isAlphanum = false) (text : String) : c ∉ (formEncode text).toList := by
  rw [formEncode, String.toList_ofList]
  intro member
  obtain ⟨byte, _, inside⟩ := List.mem_flatMap.mp member
  rcases formByte_cases byte with ⟨_, plus⟩ | ⟨other, _, kept, same⟩ | replaced
  · rw [plus, List.mem_singleton] at inside
    subst inside
    exact foreign List.mem_cons_self
  · rw [same, List.mem_singleton] at inside
    subst inside
    rcases kept with alphanumeric | listed
    · rw [mark] at alphanumeric
      cases alphanumeric
    · exact foreign (by simp only [List.mem_cons] at listed ⊢; exact .inr (.inr listed))
  · rw [replaced] at inside
    rcases isAlphanum_of_mem_escapeByte inside with rfl | alphanumeric
    · exact foreign (by decide)
    · rw [mark] at alphanumeric
      cases alphanumeric

end DocQuery.Cluster
