/-!
# Dates of the Gregorian calendar

Days are numbered from 1970-01-01, in both directions and without a limit. A
date is found from its number in two steps: the year whose first day is the last
one that is not later, and the month by counting off the lengths of months.
-/

namespace DocQuery

/-- A day of the Gregorian calendar. -/
structure Date where
  year : Int
  /-- The month, from one. -/
  month : Nat
  /-- The day of the month, from one. -/
  day : Nat
  deriving DecidableEq, Repr

namespace Date

/-- Whether a year has 366 days. -/
def isLeap (year : Int) : Bool := year % 4 == 0 && (year % 100 != 0 || year % 400 == 0)

/-- The lengths of the months of a year. -/
def monthLengths (year : Int) : List Nat :=
  [31, if isLeap year then 29 else 28, 31, 30, 31, 30, 31, 31, 30, 31, 30, 31]

/-- Whether there is such a day. -/
def exists? (date : Date) : Bool :=
  1 ≤ date.month && 1 ≤ date.day &&
    match (monthLengths date.year)[date.month - 1]? with
    | some length => decide (date.day ≤ length)
    | none => false

/-- The number of the first day of a year. -/
def firstDayOfYear (year : Int) : Int :=
  let before := year - 1
  365 * before + before / 4 - before / 100 + before / 400 - 719162

/-- How many days of the year come before the date. -/
def dayOfYear (date : Date) : Nat :=
  ((monthLengths date.year).take (date.month - 1)).foldl (· + ·) 0 + (date.day - 1)

/-- The number of a day. -/
def number (date : Date) : Int := firstDayOfYear date.year + date.dayOfYear

/-- The year of a day: an estimate from the mean length of a year, and a correction. -/
def yearOf (number : Int) : Int :=
  let estimate := (number + 719162) * 400 / 146097 + 1
  if number < firstDayOfYear estimate then estimate - 1
  else if firstDayOfYear (estimate + 1) ≤ number then estimate + 1
  else estimate

/-- The month and the day of the month of a day of the year. -/
def monthAndDay : (lengths : List Nat) → (month day : Nat) → Nat × Nat
  | [], month, day => (month, day + 1)
  | length :: rest, month, day =>
    if day < length then (month, day + 1) else monthAndDay rest (month + 1) (day - length)

/-- The day with a given number. -/
def ofNumber (number : Int) : Date :=
  let year := yearOf number
  let (month, day) := monthAndDay (monthLengths year) 1 (number - firstDayOfYear year).toNat
  ⟨year, month, day⟩

/-- The year of a day begins no later than the day, and the next year does. -/
theorem firstDayOfYear_yearOf (number : Int) :
    firstDayOfYear (yearOf number) ≤ number ∧ number < firstDayOfYear (yearOf number + 1) := by
  unfold yearOf firstDayOfYear
  dsimp only
  split
  · constructor <;> omega
  · split <;> constructor <;> omega

end Date

end DocQuery
