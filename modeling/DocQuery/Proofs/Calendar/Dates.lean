import DocQuery.Calendar.Date
import Mathlib.Algebra.GroupWithZero.Nat

/-!
# Days have dates

Every number is the number of a day of the calendar: `Date.exists?_ofNumber`. The year
that is found begins no later than the day, and the next year does. So the day of the
year is smaller than the lengths of the months together, and counting these off ends
within a month. What has been counted off is what comes before the day, so the day has
the number that it was found from: `Date.number_ofNumber`.
-/

namespace DocQuery.Date

/-- The days of a year. -/
def yearLength (year : Int) : Nat := if isLeap year then 366 else 365

/-- A year is as long as its months together. -/
theorem sum_monthLengths (year : Int) : (monthLengths year).sum = yearLength year := by
  unfold monthLengths yearLength
  split <;> rfl

/-- The next year begins when the days of the year are over. -/
theorem firstDayOfYear_succ (year : Int) :
    firstDayOfYear (year + 1) = firstDayOfYear year + yearLength year := by
  unfold firstDayOfYear yearLength isLeap
  simp only [Bool.and_eq_true, Bool.or_eq_true, beq_iff_eq, bne_iff_ne]
  split <;> omega

/-- Counting off months that are long enough ends within one of them. -/
theorem monthAndDay_within {lengths : List Nat} {month day : Nat} (within : day < lengths.sum) :
    ∃ index length, lengths[index]? = some length ∧
      (monthAndDay lengths month day).1 = month + index ∧
      1 ≤ (monthAndDay lengths month day).2 ∧ (monthAndDay lengths month day).2 ≤ length := by
  induction lengths generalizing month day with
  | nil => simp at within
  | cons head rest ih =>
      rw [monthAndDay]
      split
      · rename_i here
        exact ⟨0, head, rfl, rfl, by omega, by omega⟩
      · rename_i later
        rw [List.sum_cons] at within
        obtain ⟨index, length, found, months, positive, bounded⟩ :=
          @ih (month + 1) (day - head) (by omega)
        exact ⟨index + 1, length, found, by omega, positive, bounded⟩

/-- The months that are counted off and the days before in the last one come to the day. -/
theorem monthAndDay_counts {lengths : List Nat} {month day : Nat} (within : day < lengths.sum) :
    ∃ index, (monthAndDay lengths month day).1 = month + index ∧
      (lengths.take index).sum + ((monthAndDay lengths month day).2 - 1) = day := by
  induction lengths generalizing month day with
  | nil => simp at within
  | cons head rest ih =>
      rw [monthAndDay]
      split
      · exact ⟨0, rfl, by simp⟩
      · rename_i later
        rw [List.sum_cons] at within
        obtain ⟨index, months, counted⟩ := @ih (month + 1) (day - head) (by omega)
        refine ⟨index + 1, by omega, ?_⟩
        rw [List.take_succ_cons, List.sum_cons]
        omega

/-- There is a day if it is one of the days of its month. -/
theorem exists?_iff {date : Date} :
    date.exists? = true ↔ 1 ≤ date.month ∧ 1 ≤ date.day ∧
      ∃ length, (monthLengths date.year)[date.month - 1]? = some length ∧ date.day ≤ length := by
  rw [exists?]
  cases (monthLengths date.year)[date.month - 1]? <;> simp [and_assoc]

/-- A day is one of the days of the months of its year. -/
theorem day_within (number : Int) : (number - firstDayOfYear (yearOf number)).toNat <
    (monthLengths (yearOf number)).sum := by
  obtain ⟨begun, ended⟩ := firstDayOfYear_yearOf number
  rw [sum_monthLengths]
  rw [firstDayOfYear_succ] at ended
  omega

/-- Every day has a date. -/
theorem exists?_ofNumber (number : Int) : (ofNumber number).exists? = true := by
  obtain ⟨index, length, found, months, positive, bounded⟩ :=
    @monthAndDay_within _ 1 _ (day_within number)
  have month : (ofNumber number).month = 1 + index := months
  refine exists?_iff.mpr ⟨by omega, positive, length, ?_, bounded⟩
  rw [month, Nat.add_sub_cancel_left]
  exact found

/-- A day has the number that its date was found from. -/
theorem number_ofNumber (number : Int) : (ofNumber number).number = number := by
  obtain ⟨begun, _⟩ := firstDayOfYear_yearOf number
  obtain ⟨index, months, counted⟩ := @monthAndDay_counts _ 1 _ (day_within number)
  have year : (ofNumber number).year = yearOf number := rfl
  have month : (ofNumber number).month = 1 + index := months
  have before : (ofNumber number).dayOfYear =
      (number - firstDayOfYear (yearOf number)).toNat := by
    rw [dayOfYear, ← List.sum_eq_foldl_nat, year, month, Nat.add_sub_cancel_left]
    exact counted
  rw [Date.number, year, before]
  omega

/-- Month and day of a date have two digits at most. -/
theorem month_le_of_exists? {date : Date} (real : date.exists? = true) :
    date.month ≤ 12 ∧ date.day ≤ 31 := by
  obtain ⟨_, _, length, found, bounded⟩ := exists?_iff.mp real
  have listed := List.mem_of_getElem? found
  have lengths : ∀ length ∈ monthLengths date.year, length ≤ 31 := by
    unfold monthLengths
    split <;> decide
  have index : date.month - 1 < 12 := (List.getElem?_eq_some_iff.mp found).1
  exact ⟨by omega, Nat.le_trans bounded (lengths length listed)⟩

end DocQuery.Date
