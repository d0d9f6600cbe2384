import DocQuery.Calendar.Reader
import DocQuery.Proofs.Calendar.WrittenInstants

/-!
# Instants that are read

However an instant is read, it lies in the years that instants may lie in, and its fraction
is below a second, or below two seconds where it is that of a leap second, which ends a
minute: `regular_of_ofJson?`.
-/

namespace DocQuery

namespace Instant

/-- The digits of a fraction come to less than a second. -/
theorem fractionValue_lt {digits : List Char} (isDigit : ∀ c ∈ digits, c.isDigit = true) :
    fractionValue digits < 1_000_000_000 := by
  have counted : (digits.take 9).length ≤ 9 := by
    rw [List.length_take]
    exact Nat.min_le_left _ _
  have taken : ∀ c ∈ digits.take 9, c.isDigit = true :=
    fun c member => isDigit c (List.mem_of_mem_take member)
  have value := Text.digitsValue_lt taken 0
  rw [Nat.zero_add, Nat.one_mul] at value
  calc fractionValue digits
      = Text.digitsValue (digits.take 9) 0 * 10 ^ (9 - (digits.take 9).length) := rfl
    _ < 10 ^ (digits.take 9).length * 10 ^ (9 - (digits.take 9).length) :=
        Nat.mul_lt_mul_of_pos_right value (Nat.pow_pos (by decide))
    _ = 1_000_000_000 := by
        rw [← Nat.pow_add, Nat.add_sub_cancel' counted]

/-- The fraction that is read is less than a second. -/
theorem readFraction_lt {chars rest : List Char} {nanosecond : Nat}
    (read : readFraction chars = some (nanosecond, rest)) : nanosecond < 1_000_000_000 := by
  rw [readFraction.eq_def] at read
  split at read
  · dsimp only at read
    split at read
    · cases read
    · simp only [Option.some.injEq, Prod.mk.injEq] at read
      rw [← read.1]
      exact fractionValue_lt (List.all_eq_true.mp List.all_takeWhile)
  · simp only [Option.some.injEq, Prod.mk.injEq] at read
    rw [← read.1]
    decide

/-- The time of day that is read has a fraction of less than a second. -/
theorem readTime_lt {form : Form} {chars rest : List Char} {time : TimeOfDay}
    (read : form.readTime chars = some (time, rest)) : time.nanosecond < 1_000_000_000 := by
  simp only [Form.readTime, Option.bind_eq_bind, Option.bind_eq_some_iff, Prod.exists] at read
  obtain ⟨_, _, _, _, _, _, _, _, _, _, _, _, _, _, _, fraction, made⟩ := read
  simp only [Option.some.injEq, Prod.mk.injEq] at made
  rw [← made.1]
  exact readFraction_lt fraction

/-- An offset is one of whole minutes. -/
theorem readOffset_emod {chars rest : List Char} {offset : Int}
    (read : readOffset chars = some (offset, rest)) : offset % 60 = 0 := by
  rw [readOffset.eq_def] at read
  split at read
  · cases read
  · split at read
    · simp only [Option.some.injEq, Prod.mk.injEq] at read
      rw [← read.1]
      rfl
    · simp only [Option.bind_eq_bind, Option.bind_eq_some_iff, Prod.exists] at read
      obtain ⟨sign, signed, hours, _, _, _, _, minutes, _, _, made⟩ := read
      split at made
      · have unit : sign = 1 ∨ sign = -1 := by
          rw [offsetSign?] at signed
          split at signed
          · exact .inl (Option.some.inj signed).symm
          · split at signed
            · exact .inr (Option.some.inj signed).symm
            · cases signed
        simp only [Option.some.injEq, Prod.mk.injEq] at made
        rw [← made.1]
        rcases unit with rfl | rfl <;> omega
      · cases made

/-- An instant as it is read: it lies in the years that instants may lie in, its fraction is
below two seconds, and a leap second ends a minute. -/
structure Regular (instant : Instant) : Prop where
  inRange : instant.inRange = true
  bounded : instant.Bounded
  leap : 1_000_000_000 ≤ instant.nanoseconds → instant.seconds % 60 = 59

/-- A date and a time of day give a regular instant, whole minutes ahead of universal time. -/
theorem regular_of_ofLocal? {date : Date} {time : TimeOfDay} {offset : Int} {instant : Instant}
    (made : ofLocal? date time offset = some instant)
    (fraction : time.nanosecond < 1_000_000_000) (minutes : offset % 60 = 0) :
    instant.Regular := by
  rw [ofLocal?] at made
  split at made
  · dsimp only at made
    split at made
    · rename_i within
      rw [← Option.some.inj made]
      refine ⟨within, ?bounded, ?leap⟩
      case bounded =>
        show time.nanoseconds < 2_000_000_000
        rw [TimeOfDay.nanoseconds]
        split <;> omega
      case leap =>
        show 1_000_000_000 ≤ time.nanoseconds →
          (date.number * 86400 + time.seconds - offset) % 60 = 59
        rw [TimeOfDay.nanoseconds, TimeOfDay.seconds]
        split
        · omega
        · omega
    · cases made
  · cases made

/-- Milliseconds give a regular instant, with a fraction of less than a second. -/
theorem regular_of_ofMilliseconds? {milliseconds : Int} {instant : Instant}
    (made : ofMilliseconds? milliseconds = some instant) : instant.Regular := by
  rw [ofMilliseconds?] at made
  split at made
  · rename_i within
    rw [← Option.some.inj made]
    refine ⟨within, ?bounded, ?leap⟩
    case bounded =>
      show (milliseconds % 1000).toNat * 1_000_000 < 2_000_000_000
      omega
    case leap =>
      show 1_000_000_000 ≤ (milliseconds % 1000).toNat * 1_000_000 → _
      omega
  · cases made

/-- An instant is made only where nothing is left of the text. -/
theorem whole_of_made {rest : List Char} {made : Option Instant} {instant : Instant}
    (conditional : (if rest.isEmpty = true then made else none) = some instant) :
    rest = [] ∧ made = some instant := by
  split at conditional
  · rename_i empty
    exact ⟨List.isEmpty_iff.mp empty, conditional⟩
  · cases conditional

/-- A text gives a regular instant in each of the forms that it may have. -/
theorem regular_of_readChars? {chars : List Char} {instant : Instant}
    (read : readChars? chars = some instant) : instant.Regular := by
  simp only [readChars?, Option.orElse_eq_orElse, Option.orElse_eq_or,
    Option.or_eq_some_iff] at read
  rcases read with withOffset | ⟨_, universal | ⟨_, dateOnly | ⟨_, milliseconds⟩⟩⟩
  · simp only [readWithOffset?, Option.bind_eq_bind, Option.bind_eq_some_iff,
      Prod.exists] at withOffset
    obtain ⟨_, _, _, _, _, _, _, time, _, _, offset, made⟩ := withOffset
    exact regular_of_ofLocal? (whole_of_made made).2 (readTime_lt time) (readOffset_emod offset)
  · simp only [readUniversal?, Option.bind_eq_bind, Option.bind_eq_some_iff,
      Prod.exists] at universal
    obtain ⟨_, _, _, _, _, _, _, time, made⟩ := universal
    exact regular_of_ofLocal? (whole_of_made made).2 (readTime_lt time) rfl
  · simp only [readDateOnly?, Option.bind_eq_bind, Option.bind_eq_some_iff,
      Prod.exists] at dateOnly
    obtain ⟨_, _, _, made⟩ := dateOnly
    exact regular_of_ofLocal? (whole_of_made made).2 (by decide) rfl
  · simp only [readMilliseconds?, Option.bind_eq_bind, Option.bind_eq_some_iff] at milliseconds
    obtain ⟨_, _, _, _, made⟩ := milliseconds
    exact regular_of_ofMilliseconds? made

/-- Every instant that is read from a stored value is regular. -/
theorem regular_of_ofJson? {value : Json} {instant : Instant}
    (read : ofJson? value = some instant) : instant.Regular := by
  cases value with
  | string text => exact regular_of_readChars? read
  | number number =>
      obtain ⟨_, _, made⟩ := Option.bind_eq_some_iff.mp read
      exact regular_of_ofMilliseconds? made
  | _ => cases read

end Instant

end DocQuery
