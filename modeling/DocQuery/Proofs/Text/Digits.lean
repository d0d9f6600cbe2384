import DocQuery.Text.Digits
import Mathlib.Tactic.Ring

/-!
# Digits and the numbers that they write

Padding a number to a width gives exactly as many digits, if the number fits, and these
digits write the number.
-/

namespace DocQuery.Text

/-- A number written with a given number of digits. -/
structure Writes (width number : Nat) (digits : List Char) : Prop where
  length : digits.length = width
  isDigit : ∀ c ∈ digits, c.isDigit = true
  value : digitsValue digits 0 = number

/-- The value of digits in terms of that of the standard library. -/
theorem digitsValue_eq_ofDigitChars (digits : List Char) (before : Nat) :
    digitsValue digits before = Nat.ofDigitChars 10 digits before := by
  rw [Nat.ofDigitChars_eq_foldl, digitsValue]
  congr 1
  funext value digit
  rw [digitValue, Nat.mul_comm]

/-- A number that fits is written in as many digits as it is padded to. -/
theorem writes_paddedDigits {width n : Nat} (inhabited : 0 < width) (fits : n < 10 ^ width) :
    Writes width n (paddedDigits width n) where
  length := by
    have short := (Nat.length_toDigits_le_iff (by decide) inhabited).mpr fits
    rw [paddedDigits, natDigits, List.length_append, List.length_replicate]
    omega
  isDigit := by
    intro c member
    rcases List.mem_append.mp member with zero | digit
    · rw [(List.mem_replicate.mp zero).2]
      decide
    · exact Nat.isDigit_of_mem_toDigits (by decide) (by decide) digit
  value := by
    rw [digitsValue_eq_ofDigitChars, paddedDigits, natDigits, Nat.ofDigitChars_append,
      Nat.ofDigitChars_replicate_zero, Nat.mul_zero,
      Nat.ofDigitChars_toDigits (by decide) (by decide)]

/-- A digit is worth nine at most. -/
theorem digitValue_le {c : Char} (digit : c.isDigit = true) : digitValue c ≤ 9 := by
  simp only [Char.isDigit, Bool.and_eq_true, decide_eq_true_eq, UInt32.le_iff_toNat_le] at digit
  have upper : c.toNat ≤ 57 := digit.2
  have zero : '0'.toNat = 48 := rfl
  rw [digitValue, zero]
  omega

/-- A number is smaller than the power of ten of its number of digits. -/
theorem digitsValue_lt {digits : List Char} (isDigit : ∀ c ∈ digits, c.isDigit = true)
    (before : Nat) : digitsValue digits before < (before + 1) * 10 ^ digits.length := by
  induction digits generalizing before with
  | nil => simp [digitsValue]
  | cons head rest ih =>
      have first := digitValue_le (isDigit head List.mem_cons_self)
      have others := ih (fun c member => isDigit c (List.mem_cons_of_mem _ member))
        (before * 10 + digitValue head)
      calc digitsValue (head :: rest) before
          = digitsValue rest (before * 10 + digitValue head) := rfl
        _ < (before * 10 + digitValue head + 1) * 10 ^ rest.length := others
        _ ≤ ((before + 1) * 10) * 10 ^ rest.length := Nat.mul_le_mul_right _ (by omega)
        _ = (before + 1) * 10 ^ (head :: rest).length := by
          rw [List.length_cons]
          ring

end DocQuery.Text
