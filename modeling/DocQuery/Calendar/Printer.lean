import DocQuery.Calendar.Instant
import DocQuery.Text.Digits

/-!
# Writing instants

An instant is written as date and time of day in universal time. The fraction
has as many groups of three digits as it needs. Years before 0 or after 9999
have a sign.
-/

namespace DocQuery.Instant

/-- A year with at least four digits, and a sign if it is not between 0 and 9999. -/
def yearText (year : Int) : List Char :=
  if 0 ≤ year ∧ year ≤ 9999 then Text.paddedDigits 4 year.toNat
  else (if year < 0 then '-' else '+') :: Text.paddedDigits 4 year.natAbs

/-- A number with two digits. -/
def pairText (n : Nat) : List Char := Text.paddedDigits 2 n

/-- A fraction of a second, in the fewest groups of three digits. -/
def fractionText (nanoseconds : Nat) : List Char :=
  if nanoseconds = 0 then []
  else if nanoseconds % 1_000_000 = 0 then '.' :: Text.paddedDigits 3 (nanoseconds / 1_000_000)
  else if nanoseconds % 1000 = 0 then '.' :: Text.paddedDigits 6 (nanoseconds / 1000)
  else '.' :: Text.paddedDigits 9 nanoseconds

/-- The date on which an instant lies. -/
def date (instant : Instant) : Date := .ofNumber instant.dayNumber

/-- The time of day at an instant. -/
def timeOfDay (instant : Instant) : TimeOfDay :=
  let seconds := (instant.seconds % daySeconds).toNat
  { hour := seconds / 3600
    minute := seconds / 60 % 60
    second := seconds % 60 + instant.nanoseconds / 1_000_000_000
    nanosecond := instant.nanoseconds % 1_000_000_000 }

/-- A date, with hyphens. -/
def dateText (date : Date) : List Char :=
  yearText date.year ++ '-' :: pairText date.month ++ '-' :: pairText date.day

/-- A time of day, with colons, and a point before the fraction. -/
def timeText (time : TimeOfDay) : List Char :=
  pairText time.hour ++ ':' :: pairText time.minute ++ ':' :: pairText time.second ++
    fractionText time.nanosecond

/-- The characters of an instant. -/
def chars (instant : Instant) : List Char :=
  dateText instant.date ++ 'T' :: timeText instant.timeOfDay ++ ['Z']

/-- The text of an instant. -/
def text (instant : Instant) : String := String.ofList instant.chars

end DocQuery.Instant
