/-!
# Instants

Points in time, and their texts in the Gregorian calendar. An instant is a count of seconds from
the start of 1970, and nanoseconds within that second; a second that is followed by a leap second
has nanoseconds beyond a whole second, and the text then shows second 60.
-/

namespace AgentOperator

/-- A point in time: the seconds since the start of 1970, leap seconds not counted, and the
nanoseconds since then. -/
structure Instant where
  seconds : Int
  nanos : Nat := 0
deriving DecidableEq, Repr

/-- A day of the Gregorian calendar, which is also used for the time before its introduction. Year 0
is the one before year 1; months and days are counted from 1. -/
structure CalendarDay where
  year : Int
  month : Nat
  day : Nat
deriving DecidableEq, Repr

namespace CalendarDay

/-- The days from the first of March of year 0 to the start of 1970. -/
def daysToEpoch : Int := 719468

/-- The days of 400 years, after which the calendar repeats. -/
def daysOfEra : Nat := 146097

/-- The year within 400 years that a day falls into; years begin in March here, so that a leap day
is the last of its year. -/
def yearOfEra (dayOfEra : Nat) : Nat :=
  (dayOfEra - dayOfEra / 1460 + dayOfEra / 36524 - dayOfEra / 146096) / 365

/-- The calendar day that is `days` days after the start of 1970. -/
def ofDays (days : Int) : CalendarDay :=
  let shifted := days + daysToEpoch
  let era := Int.fdiv shifted daysOfEra
  let dayOfEra := (Int.fmod shifted daysOfEra).toNat
  let yearOfEra := yearOfEra dayOfEra
  let dayOfYear := dayOfEra - (365 * yearOfEra + yearOfEra / 4 - yearOfEra / 100)
  let fromMarch := (5 * dayOfYear + 2) / 153
  let month := if fromMarch < 10 then fromMarch + 3 else fromMarch - 9
  { year := yearOfEra + era * 400 + (if month ≤ 2 then 1 else 0)
    month := month
    day := dayOfYear - (153 * fromMarch + 2) / 5 + 1 }

end CalendarDay

namespace Instant

/-- The nanoseconds of a second. -/
def nanosOfSecond : Nat := 1000000000

/-- The seconds of a day. -/
def secondsOfDay : Int := 86400

/-- A number with zeros in front of it up to a width. -/
def padded (width n : Nat) : String :=
  let digits := toString n
  String.ofList (List.replicate (width - digits.length) '0') ++ digits

/-- The text of a year: four digits, and a sign and as many digits as it takes for a year that
four digits do not hold. -/
def yearText (year : Int) : String :=
  if 0 ≤ year ∧ year ≤ 9999 then padded 4 year.toNat
  else (if year < 0 then "-" else "+") ++ padded 4 year.natAbs

/-- The text of the part of a second: nothing for a whole second, else as many of three, six and
nine digits as it takes. -/
def fractionText (nanos : Nat) : String :=
  if nanos = 0 then ""
  else if nanos % 1000000 = 0 then "." ++ padded 3 (nanos / 1000000)
  else if nanos % 1000 = 0 then "." ++ padded 6 (nanos / 1000)
  else "." ++ padded 9 nanos

/-- The day and the second of it, in the form that all texts of instants begin with. -/
def secondText (t : Instant) : String :=
  let day := CalendarDay.ofDays (Int.fdiv t.seconds secondsOfDay)
  let second := (Int.fmod t.seconds secondsOfDay).toNat
  yearText day.year ++ "-" ++ padded 2 day.month ++ "-" ++ padded 2 day.day ++ "T" ++
    padded 2 (second / 3600) ++ ":" ++ padded 2 (second / 60 % 60) ++ ":" ++
    padded 2 (second % 60 + t.nanos / nanosOfSecond)

/-- The text of an instant, with its offset from universal time and no more digits for the part of
a second than it takes. -/
def text (t : Instant) : String :=
  secondText t ++ fractionText (t.nanos % nanosOfSecond) ++ "+00:00"

/-- The text of an instant in microseconds, which is the form of times in events. -/
def microText (t : Instant) : String :=
  secondText t ++ "." ++ padded 6 (t.nanos % nanosOfSecond / 1000) ++ "Z"

/-- The nanoseconds since the start of 1970. -/
def totalNanos (t : Instant) : Int := t.seconds * nanosOfSecond + t.nanos

end Instant

end AgentOperator
