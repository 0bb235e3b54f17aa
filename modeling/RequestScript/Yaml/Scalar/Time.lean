import RequestScript.Calendar

/-!
# Times

A time is a date, with or without a time of day. The time of day may have a fraction of a second
and an offset from coordinated universal time.
-/

namespace RequestScript.Yaml

/-- A time as it is written. -/
structure Time where
  date : Date
  /-- The hour, minute and second, if they are given. -/
  clock : Option (Nat × Nat × Nat) := none
  /-- The minutes that the time is off from coordinated universal time, in either direction. -/
  offset : Nat := 0

namespace Time

/-- The number that a few ASCII digits at the start of a text denote, as many as there are up to a
bound, and the text after them. -/
def takeNumber? (least most : Nat) (cs : List Char) : Option (Nat × List Char) :=
  let digits := (cs.take most).takeWhile Char.isDigit
  if digits.length < least then none
  else some (Text.natOfDigits digits, cs.drop digits.length)

/-- The text after a character, if it starts with that character. -/
def after? (c : Char) : List Char → Option (List Char)
  | [] => none
  | d :: rest => if d = c then some rest else none

/-- The date at the start of a text. -/
def takeDate? (cs : List Char) : Option (Date × List Char) := do
  let (year, cs) ← takeNumber? 4 4 cs
  let (month, cs) ← takeNumber? 1 2 (← after? '-' cs)
  let (day, cs) ← takeNumber? 1 2 (← after? '-' cs)
  return ({ year, month, day }, cs)

/-- The text after what parts a date from the time of day: a letter, or blanks. -/
def afterDate? (cs : List Char) : Option (List Char) :=
  match cs with
  | [] => none
  | c :: rest =>
    if c == 'T' || c == 't' then some rest
    else if c == ' ' || c == '\t' then some (rest.dropWhile fun d => d == ' ' || d == '\t')
    else none

/-- The time of day at the start of a text. A fraction of a second is left out. -/
def takeClock? (cs : List Char) : Option ((Nat × Nat × Nat) × List Char) := do
  let (hour, cs) ← takeNumber? 1 2 cs
  let (minute, cs) ← takeNumber? 2 2 (← after? ':' cs)
  let (second, cs) ← takeNumber? 2 2 (← after? ':' cs)
  let cs := ((after? '.' cs).map (·.dropWhile Char.isDigit)).getD cs
  return ((hour, minute, second), cs)

/-- The minutes of the offset that a text is. -/
def offset? (cs : List Char) : Option Nat :=
  match cs.dropWhile fun c => c == ' ' || c == '\t' with
  | [] => if cs.isEmpty then some 0 else none
  | ['Z'] => some 0
  | sign :: rest => do
    if sign != '+' && sign != '-' then none
    let (hours, rest) ← takeNumber? 1 2 rest
    match rest with
    | [] => return 60 * hours
    | _ =>
      let (minutes, rest) ← takeNumber? 2 2 (← after? ':' rest)
      if rest.isEmpty then return 60 * hours + minutes else none

/-- The time that a text is. -/
def read? (cs : List Char) : Option Time := do
  let (date, cs) ← takeDate? cs
  if cs.isEmpty then return { date }
  let (clock, cs) ← takeClock? (← afterDate? cs)
  return { date, clock := some clock, offset := ← offset? cs }

/-- Whether a text without quotes is a time: in a date alone no zero is left out. -/
def isWord (cs : List Char) : Bool :=
  match read? cs with
  | some time => time.clock.isSome || cs.length == 10
  | none => false

/-- Whether the clock has an hour, minute and second. -/
def isOnClock : Nat × Nat × Nat → Bool
  | (hour, minute, second) => hour < 24 && minute < 60 && second < 60

/-- Whether the calendar and the clock have a time, at an offset of less than a day. -/
def isPossible (time : Time) : Bool :=
  time.date.isPossible && time.clock.all isOnClock && time.offset < 24 * 60

end Time

end RequestScript.Yaml
