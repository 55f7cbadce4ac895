import AgentOperator.Text.Blank
import AgentOperator.Text.Numeral
import AgentOperator.Time.Instant

/-!
# Reading instants

`Instant.read` reads an instant from its text: a day, the letter T or a space, a time of the day,
and an offset from universal time. Blanks may stand between any two parts, numbers need not have
leading zeros, and a year may have a sign and more than four digits.
-/

namespace AgentOperator

/-- Why a text is no instant: it ends too early, a character stands where another one is due, a
number is out of range for what it counts, something follows the instant, or the instant lies beyond
the calendar once its offset is taken off. -/
inductive TimeFault where
  | ended
  | misplaced
  | outOfRange
  | trailing
  | beyondCalendar
deriving DecidableEq, Repr

/-- The wording of what is wrong with the text of an instant. -/
def TimeFault.message : TimeFault → String
  | ended => "premature end of input"
  | misplaced => "input contains invalid characters"
  | outOfRange => "input is out of range"
  | trailing => "trailing input"
  | beyondCalendar => "no possible date and time matching input"

namespace CalendarDay

/-- The number of days of the months of a year. -/
def daysOfMonth (year : Int) (month : Nat) : Nat :=
  if month = 2 then
    if year % 4 = 0 && (year % 100 != 0 || year % 400 = 0) then 29 else 28
  else if [4, 6, 9, 11].contains month then 30
  else 31

/-- The first year of the calendar. -/
def firstYear : Int := -262143

/-- The last year of the calendar. -/
def lastYear : Int := 262142

/-- Whether a day exists. -/
def isValid (day : CalendarDay) : Bool :=
  firstYear ≤ day.year && day.year ≤ lastYear && 1 ≤ day.month && day.month ≤ 12 && 1 ≤ day.day &&
    day.day ≤ daysOfMonth day.year day.month

/-- The days from the start of 1970 to a day. -/
def toDays (day : CalendarDay) : Int :=
  let year := if day.month ≤ 2 then day.year - 1 else day.year
  let fromMarch := if day.month ≤ 2 then day.month + 9 else day.month - 3
  let dayOfYear := (153 * fromMarch + 2) / 5 + day.day - 1
  365 * year + Int.fdiv year 4 - Int.fdiv year 100 + Int.fdiv year 400 + dayOfYear - daysToEpoch

/-- Whether the day that is `days` days after the start of 1970 lies in the calendar. -/
def isInCalendar (days : Int) : Bool :=
  toDays ⟨firstYear, 1, 1⟩ ≤ days && days ≤ toDays ⟨lastYear, 12, 31⟩

end CalendarDay

namespace Instant

/-- Reads a number of at most `width` digits. -/
def readNumber (width : Nat) (cs : List Char) : Except TimeFault (Nat × List Char) :=
  match cs with
  | [] => .error .ended
  | c :: _ =>
    if Numeral.isDigit c then
      let digits := (cs.take width).takeWhile Numeral.isDigit
      .ok (Numeral.value 0 digits, cs.drop digits.length)
    else .error .misplaced

/-- Reads a number of at most two digits in a range. -/
def readPart (least greatest : Nat) (cs : List Char) : Except TimeFault (Nat × List Char) := do
  let (n, rest) ← readNumber 2 (Text.skipBlanks cs)
  if least ≤ n && n ≤ greatest then .ok (n, rest) else .error .outOfRange

/-- Reads a year, which has more than four digits only if it has a sign. -/
def readYear (cs : List Char) : Except TimeFault (Int × List Char) := do
  let (year, rest) ←
    match Text.skipBlanks cs with
    | '-' :: cs => (readNumber cs.length cs).map fun (n, rest) => (-(n : Int), rest)
    | '+' :: cs => (readNumber cs.length cs).map fun (n, rest) => ((n : Int), rest)
    | cs => (readNumber 4 cs).map fun (n, rest) => ((n : Int), rest)
  if Int32.minValue.toInt ≤ year && year ≤ Int32.maxValue.toInt then .ok (year, rest)
  else .error .outOfRange

/-- Reads a character that has to be there. -/
def readMark (mark : Char) (cs : List Char) : Except TimeFault (List Char) :=
  match Text.skipBlanks cs with
  | [] => .error .ended
  | c :: rest => if c = mark then .ok rest else .error .misplaced

/-- Reads the nanoseconds behind a point; digits beyond the ninth do not count. -/
def readNanos : List Char → Except TimeFault (Nat × List Char)
  | '.' :: cs => do
    let (n, rest) ← readNumber 9 cs
    let places := cs.length - rest.length
    return (n * Nat.pow 10 (9 - places), rest.dropWhile Numeral.isDigit)
  | cs => .ok (0, cs)

/-- Reads two digits of an offset. -/
def readPair : List Char → Except TimeFault (Nat × List Char)
  | a :: b :: rest =>
    if Numeral.isDigit a && Numeral.isDigit b then .ok (Numeral.value 0 [a, b], rest)
    else .error .misplaced
  | [c] => .error (if c.utf8Size < 2 then .ended else .misplaced)
  | [] => .error .ended

/-- Reads the hours and minutes of an offset and gives them back as seconds. -/
def readOffsetSize (cs : List Char) : Except TimeFault (Int × List Char) := do
  let (hours, rest) ← readPair cs
  let (minutes, rest) ← readPair (rest.dropWhile fun c => c = ':' || Text.isBlank c)
  if minutes < 60 then .ok (3600 * hours + 60 * minutes, rest) else .error .outOfRange

/-- Reads an offset from universal time in seconds. -/
def readOffset (cs : List Char) : Except TimeFault (Int × List Char) :=
  if (cs.take 3).map Char.toLower = ['u', 't', 'c'] then .ok (0, cs.drop 3)
  else
    match cs with
    | [] => .error .ended
    | c :: rest =>
      if c = 'Z' || c = 'z' then .ok (0, rest)
      else if c = '+' then readOffsetSize rest
      else if c = '-' || c = '−' then
        (readOffsetSize rest).map fun (seconds, rest) => (-seconds, rest)
      else .error .misplaced

/-- Reads a day of the calendar. -/
def readDay (cs : List Char) : Except TimeFault (CalendarDay × List Char) := do
  let (year, cs) ← readYear cs
  let cs ← readMark '-' cs
  let (month, cs) ← readPart 1 12 cs
  let cs ← readMark '-' cs
  let (day, cs) ← readPart 1 31 cs
  return (⟨year, month, day⟩, cs)

/-- Passes over what stands between the day and the time of the day. -/
def readSeparator : List Char → Except TimeFault (List Char)
  | [] => .error .ended
  | c :: cs => if ['t', 'T', ' '].contains c then .ok cs else .error .misplaced

/-- Reads an instant from its text. -/
def read (s : String) : Except TimeFault Instant := do
  let (day, cs) ← readDay s.toList
  let cs ← readSeparator cs
  let (hour, cs) ← readPart 0 23 cs
  let cs ← readMark ':' cs
  let (minute, cs) ← readPart 0 59 cs
  let cs ← readMark ':' cs
  let (second, cs) ← readPart 0 60 cs
  let (nanos, cs) ← readNanos cs
  let (offset, cs) ← readOffset (Text.skipBlanks cs)
  if !(Text.skipBlanks cs).isEmpty then .error .trailing
  else if !day.isValid || secondsOfDay ≤ offset.natAbs then .error .outOfRange
  else
    let leap : Nat := if second = 60 then 1 else 0
    let seconds := secondsOfDay * day.toDays + 3600 * hour + 60 * minute + (second - leap) - offset
    if CalendarDay.isInCalendar (Int.fdiv seconds secondsOfDay) then
      return ⟨seconds, nanos + leap * nanosOfSecond⟩
    else .error .beyondCalendar

end Instant

end AgentOperator
