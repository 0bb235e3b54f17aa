import RequestScript.Fault
import RequestScript.Text.Numeral

/-!
# Calendar dates

Dates of the proleptic Gregorian calendar in the years 1 to 9999, numbered from 1 for January 1
of the year 1, and moments in coordinated universal time given by the milliseconds since the
start of 1970.
-/

namespace RequestScript

open Text

/-- A date. -/
structure Date where
  year : Nat
  month : Nat
  day : Nat
  deriving DecidableEq

namespace Date

/-- Whether a year has a February 29. -/
def isLeapYear (year : Nat) : Bool :=
  year % 4 == 0 && (year % 100 != 0 || year % 400 == 0)

/-- The number of days of a month. -/
def monthLength (year month : Nat) : Nat :=
  match month with
  | 2 => if isLeapYear year then 29 else 28
  | 4 | 6 | 9 | 11 => 30
  | _ => 31

/-- The number of days before a year. -/
def daysBeforeYear (year : Nat) : Nat :=
  let past := year - 1
  365 * past + past / 4 - past / 100 + past / 400

/-- The number of days of a year before a month. -/
def daysBeforeMonth (year month : Nat) : Nat :=
  (List.range (month - 1)).foldl (fun days index => days + monthLength year (index + 1)) 0

/-- The number of a date. -/
def toNumber (date : Date) : Nat :=
  daysBeforeYear date.year + daysBeforeMonth date.year date.month + date.day

/-- The year of the day that comes after a number of days. -/
def yearAfter (days : Nat) : Nat :=
  let guess := days * 400 / 146097 + 1
  if days < daysBeforeYear guess then guess - 1
  else if daysBeforeYear (guess + 1) ≤ days then guess + 1
  else guess

/-- The month and day that come after a number of days, counted from the start of a month. The
fuel is the number of months that are left. -/
def monthAndDay (year month days : Nat) : Nat → Nat × Nat
  | 0 => (month, days + 1)
  | left + 1 =>
    if days < monthLength year month then (month, days + 1)
    else monthAndDay year (month + 1) (days - monthLength year month) left

/-- The last year. -/
def lastYear : Nat := 9999

/-- The date with a number. -/
def ofNumber? (number : Int) : Option Date :=
  if number < 1 then none
  else
    let days := number.toNat - 1
    let year := yearAfter days
    if lastYear < year then none
    else
      let (month, day) := monthAndDay year 1 (days - daysBeforeYear year) 12
      some { year, month, day }

/-- Whether the calendar has a date. -/
def isPossible (date : Date) : Bool :=
  1 ≤ date.year && date.year ≤ lastYear && 1 ≤ date.month && date.month ≤ 12 && 1 ≤ date.day &&
    date.day ≤ monthLength date.year date.month

/-- The number of January 1 of the year 1970. -/
def epoch : Nat := 719163

/-- The largest number of days, in either direction, of an offset. -/
def offsetLimit : Nat := 999999999

/-- The date that lies a number of days after another. -/
def addDays (date : Date) (days : Int) : Except Fault Date :=
  if offsetLimit < days.natAbs then .error .dateOutOfRange
  else match ofNumber? (date.toNumber + days) with
    | some date => .ok date
    | none => .error .dateOutOfRange

end Date

/-- A date and a time of day. -/
structure Moment where
  date : Date
  hour : Nat
  minute : Nat
  second : Nat
  microsecond : Nat
  deriving DecidableEq

namespace Moment

/-- The moment that lies a number of milliseconds after the start of 1970. -/
def ofMilliseconds (milliseconds : Int) : Except Fault Moment :=
  let days := milliseconds.fdiv 86400000
  let time := (milliseconds.fmod 86400000).toNat
  match Date.ofNumber? (Date.epoch + days) with
  | some date => .ok {
      date
      hour := time / 3600000
      minute := time / 60000 % 60
      second := time / 1000 % 60
      microsecond := time % 1000 * 1000 }
  | none => .error .dateOutOfRange

/-- The date of a moment as `YYYY-MM-DD`. -/
def dateText (moment : Moment) : List Char :=
  padded 4 moment.date.year ++ '-' :: padded 2 moment.date.month ++ '-' :: padded 2 moment.date.day

/-- The time of a moment as `HH:MM:SS`. -/
def timeText (moment : Moment) : List Char :=
  padded 2 moment.hour ++ ':' :: padded 2 moment.minute ++ ':' :: padded 2 moment.second

/-- A moment as `YYYY-MM-DDTHH:MM:SS`, with the microseconds unless they are zero. -/
def isoText (moment : Moment) : String :=
  let fraction :=
    if moment.microsecond = 0 then [] else '.' :: padded 6 moment.microsecond
  String.ofList (moment.dateText ++ 'T' :: moment.timeText ++ fraction)

/-- A moment as `YYYY-MM-DDTHH:MM:SS.mmmZ`. -/
def utcText (moment : Moment) : String :=
  String.ofList (moment.dateText ++ 'T' :: moment.timeText ++
    '.' :: padded 3 (moment.microsecond / 1000) ++ ['Z'])

/-- A moment as `YYYY-MM-DD HH:MM:SS`, the year without zeros in front. -/
def localText (moment : Moment) : String :=
  String.ofList (decimal moment.date.year ++ '-' :: padded 2 moment.date.month ++
    '-' :: padded 2 moment.date.day ++ ' ' :: moment.timeText)

/-- The names of the months. -/
def monthNames : List String :=
  ["January", "February", "March", "April", "May", "June", "July", "August", "September",
    "October", "November", "December"]

/-- The name of a month. -/
def monthName (month : Nat) : List Char :=
  (monthNames.getD (month - 1) "").toList

/-- A format with each token replaced by a part of a moment. The tokens are `YYYY`, `MMMM`,
`MMM`, `MM`, `DD`, `HH`, `mm`, `ss` and `SSS`; the longest one counts. -/
def format (moment : Moment) : List Char → List Char
  | [] => []
  | 'Y' :: 'Y' :: 'Y' :: 'Y' :: rest => decimal moment.date.year ++ format moment rest
  | 'M' :: 'M' :: 'M' :: 'M' :: rest => monthName moment.date.month ++ format moment rest
  | 'M' :: 'M' :: 'M' :: rest => (monthName moment.date.month).take 3 ++ format moment rest
  | 'M' :: 'M' :: rest => padded 2 moment.date.month ++ format moment rest
  | 'D' :: 'D' :: rest => padded 2 moment.date.day ++ format moment rest
  | 'H' :: 'H' :: rest => padded 2 moment.hour ++ format moment rest
  | 'm' :: 'm' :: rest => padded 2 moment.minute ++ format moment rest
  | 's' :: 's' :: rest => padded 2 moment.second ++ format moment rest
  | 'S' :: 'S' :: 'S' :: rest => padded 3 (moment.microsecond / 1000) ++ format moment rest
  | c :: rest => c :: format moment rest

end Moment

end RequestScript
