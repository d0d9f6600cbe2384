import DocQuery.Calendar.Date

/-!
# Points in time

An instant is a number of seconds since the start of 1970, in universal time,
and a fraction in nanoseconds. A fraction of a second and more marks a leap
second, which belongs to the second before it. Instants lie in the years from
-262143 to 262142.
-/

namespace DocQuery

/-- A point in time. -/
structure Instant where
  /-- Seconds since the start of 1970. -/
  seconds : Int
  /-- The fraction; from `10 ^ 9` on, that of the leap second that follows. -/
  nanoseconds : Nat
  deriving DecidableEq, Repr

/-- A time of day. -/
structure TimeOfDay where
  hour : Nat
  minute : Nat
  /-- The second; 60 is a leap second. -/
  second : Nat
  /-- The fraction, less than a second. -/
  nanosecond : Nat
  deriving DecidableEq, Repr

namespace TimeOfDay

/-- The start of the day. -/
def midnight : TimeOfDay := ⟨0, 0, 0, 0⟩

/-- Whether there is such a time. -/
def exists? (time : TimeOfDay) : Bool :=
  time.hour ≤ 23 && time.minute ≤ 59 && time.second ≤ 60

/-- Seconds since the start of the day; a leap second belongs to the one before. -/
def seconds (time : TimeOfDay) : Nat :=
  time.hour * 3600 + time.minute * 60 + min time.second 59

/-- The fraction, with a leap second counted in. -/
def nanoseconds (time : TimeOfDay) : Nat :=
  if time.second = 60 then 1_000_000_000 + time.nanosecond else time.nanosecond

end TimeOfDay

namespace Instant

/-- Seconds in a day. -/
def daySeconds : Int := 86400

/-- The first day that instants may lie on. -/
def firstDay : Int := (Date.mk (-262143) 1 1).number

/-- The last day that instants may lie on. -/
def lastDay : Int := (Date.mk 262142 12 31).number

/-- The number of the day on which an instant lies. -/
def dayNumber (instant : Instant) : Int := instant.seconds / daySeconds

/-- Whether the instant lies in the years that instants may lie in. -/
def inRange (instant : Instant) : Bool :=
  decide (firstDay ≤ instant.dayNumber ∧ instant.dayNumber ≤ lastDay)

/-- The instant of a date and a time of day, `offset` seconds ahead of universal time. -/
def ofLocal? (date : Date) (time : TimeOfDay) (offset : Int) : Option Instant :=
  if date.exists? && time.exists? then
    let instant := ⟨date.number * daySeconds + time.seconds - offset, time.nanoseconds⟩
    if inRange instant then some instant else none
  else none

/-- The instant of a number of milliseconds since the start of 1970. -/
def ofMilliseconds? (milliseconds : Int) : Option Instant :=
  let instant := ⟨milliseconds / 1000, (milliseconds % 1000).toNat * 1_000_000⟩
  if inRange instant then some instant else none

end Instant

end DocQuery
