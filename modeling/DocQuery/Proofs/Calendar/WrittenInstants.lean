import DocQuery.Calendar.Printer
import DocQuery.Calendar.Reader
import DocQuery.Proofs.Calendar.Dates
import DocQuery.Proofs.Text.Digits

/-!
# How instants are written

An instant in a year with four digits is written as RFC 3339 demands
(`isRfc3339_text`), and in any other year with a sign in front. This takes that the
fraction of a second, with a leap second counted in, stays below two seconds, as it does
for every instant that is read.
-/

namespace DocQuery

/-- The fraction of a second as RFC 3339 has it: nothing, or a point and digits. -/
def IsFraction (chars : List Char) : Prop :=
  chars = [] ∨ ∃ digits ≠ [], chars = '.' :: digits ∧ ∀ c ∈ digits, c.isDigit = true

/-- The text of a date and a time of day in universal time as RFC 3339 has it. The year
has four digits, every other number two, and there are such a day and such a time. -/
def IsRfc3339 (text : String) : Prop :=
  ∃ (year : Nat) (date : Date) (time : TimeOfDay)
    (yearDigits month day hour minute second fraction : List Char),
    text.toList = yearDigits ++ '-' :: month ++ '-' :: day ++ 'T' ::
      (hour ++ ':' :: minute ++ ':' :: second ++ fraction) ++ ['Z'] ∧
    date.year = year ∧ date.exists? = true ∧ time.exists? = true ∧
    Text.Writes 4 year yearDigits ∧ Text.Writes 2 date.month month ∧
    Text.Writes 2 date.day day ∧ Text.Writes 2 time.hour hour ∧
    Text.Writes 2 time.minute minute ∧ Text.Writes 2 time.second second ∧ IsFraction fraction

namespace Instant

/-- An instant whose fraction, with a leap second counted in, is below two seconds. -/
def Bounded (instant : Instant) : Prop := instant.nanoseconds < 2_000_000_000

/-- A year that has not just four digits is written with a sign. -/
theorem exists_sign_of_yearText {year : Int} (outside : ¬ (0 ≤ year ∧ year ≤ 9999)) :
    ∃ sign rest, yearText year = sign :: rest ∧ sign.isDigit = false := by
  rw [yearText, if_neg outside]
  split
  · exact ⟨'-', _, rfl, by decide⟩
  · exact ⟨'+', _, rfl, by decide⟩

/-- The fraction of a second is written as digits, if at all. -/
theorem isFraction_fractionText {nanoseconds : Nat} (fraction : nanoseconds < 1_000_000_000) :
    IsFraction (fractionText nanoseconds) := by
  have written : ∀ {width n : Nat}, 0 < width → n < 10 ^ width →
      IsFraction ('.' :: Text.paddedDigits width n) := by
    intro width n inhabited fits
    have digits := Text.writes_paddedDigits inhabited fits
    refine .inr ⟨_, ?_, rfl, digits.isDigit⟩
    rw [← List.length_pos_iff, digits.length]
    exact inhabited
  rw [fractionText]
  split
  · exact .inl rfl
  · split
    · exact written (by decide) (by omega)
    · split
      · exact written (by decide) (by omega)
      · exact written (by decide) (by omega)

/-- The time of day at an instant is one. -/
theorem exists?_timeOfDay {instant : Instant} (bounded : instant.Bounded) :
    instant.timeOfDay.exists? = true ∧ instant.timeOfDay.nanosecond < 1_000_000_000 := by
  unfold Bounded at bounded
  have seconds : (instant.seconds % daySeconds).toNat < 86400 := by
    unfold daySeconds
    omega
  have hour : instant.timeOfDay.hour ≤ 23 := by
    show (instant.seconds % daySeconds).toNat / 3600 ≤ 23
    omega
  have minute : instant.timeOfDay.minute ≤ 59 := by
    show (instant.seconds % daySeconds).toNat / 60 % 60 ≤ 59
    omega
  have second : instant.timeOfDay.second ≤ 60 := by
    show (instant.seconds % daySeconds).toNat % 60 + instant.nanoseconds / 1_000_000_000 ≤ 60
    omega
  refine ⟨?_, Nat.mod_lt _ (by decide)⟩
  simp [TimeOfDay.exists?, hour, minute, second]

/-- An instant in a year with four digits is written as RFC 3339 demands. -/
theorem isRfc3339_text {instant : Instant} (bounded : instant.Bounded)
    (year : 0 ≤ instant.date.year ∧ instant.date.year ≤ 9999) : IsRfc3339 instant.text := by
  have real := Date.exists?_ofNumber instant.dayNumber
  obtain ⟨months, days⟩ := Date.month_le_of_exists? real
  obtain ⟨time, fraction⟩ := exists?_timeOfDay bounded
  have clock := time
  simp only [TimeOfDay.exists?, Bool.and_eq_true, decide_eq_true_eq] at clock
  have pair : ∀ {n : Nat}, n < 100 → Text.Writes 2 n (pairText n) :=
    fun fits => Text.writes_paddedDigits (by decide) fits
  refine ⟨instant.date.year.toNat, instant.date, instant.timeOfDay, yearText instant.date.year,
    pairText instant.date.month, pairText instant.date.day, pairText instant.timeOfDay.hour,
    pairText instant.timeOfDay.minute, pairText instant.timeOfDay.second,
    fractionText instant.timeOfDay.nanosecond, ?_, by omega, real, time, ?_,
    pair (Nat.lt_of_le_of_lt months (by decide)), pair (Nat.lt_of_le_of_lt days (by decide)),
    pair (by omega), pair (by omega), pair (by omega), isFraction_fractionText fraction⟩
  · rw [text, String.toList_ofList, chars, dateText, timeText]
  · rw [yearText, if_pos year]
    exact Text.writes_paddedDigits (by decide) (by omega)

end Instant

end DocQuery
