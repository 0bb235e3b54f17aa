import RequestScript.Calendar
import RequestScript.Dice
import RequestScript.Double.Decimal
import RequestScript.Generator
import RequestScript.Text.Split

/-!
# Generating values

What each generator makes of its arguments, the time and the random draws. Arguments that cannot
be read count as absent, with two exceptions: a day offset with too many digits or out of the
range of dates is a fault, and so is a number of decimal places that no text can have.
-/

namespace RequestScript

open Text

namespace Generator

/-- The pieces of a list separated by commas; a comma inside double quotes separates nothing, and
the quotes are left out. -/
def enumPieces (quoted : Bool) : List Char → List (List Char)
  | [] => [[]]
  | c :: rest =>
    if c = '\x22' then enumPieces (!quoted) rest
    else if c = ',' && !quoted then [] :: enumPieces quoted rest
    else match enumPieces quoted rest with
      | [] => [[c]]
      | piece :: more => (c :: piece) :: more

/-- The values of a list: its pieces without blanks around them, the empty ones left out. -/
def enumValues (cs : List Char) : List (List Char) :=
  ((enumPieces false cs).map trim).filter (!·.isEmpty)

/-- The two bounds that arguments give, with the arguments after them: `low:high`, `low,high`,
or a high bound alone. -/
def bounds? {α : Type} (read : List Char → Option α) (low high : α)
    (arguments : List (List Char)) : Option (α × α × List (List Char)) :=
  let ofParts (parts : List (List Char)) : Option (α × α × List (List Char)) :=
    match parts with
    | first :: second :: rest => do return (← read first, ← read second, rest)
    | _ => none
  match arguments with
  | [] => some (low, high, [])
  | [argument] =>
    if argument.contains ',' then ofParts (pieces ',' argument)
    else if argument.isEmpty then some (low, high, [])
    else (read argument).map fun high => (low, high, [])
  | parts => ofParts parts

/-- A random integer between the bounds that arguments give. -/
def randomInteger (arguments : List (List Char)) : Chance (List Char) := do
  let (low, high) := match bounds? readInt? 0 1000 arguments with
    | some (low, high, _) => (low, high)
    | none => (0, 1000)
  return decimalInt (← Chance.between (min low high) (max low high))

/-- The number of decimal places that can be shown. -/
def placesLimit : Nat := 2147483647

/-- The number of decimal places that arguments after the bounds give. -/
def places (arguments : List (List Char)) : Nat :=
  match arguments with
  | argument :: _ => ((readInt? argument).getD 2).toNat
  | [] => 2

/-- A random double from zero up to one, in steps of a thousandth. -/
def randomUnit : Chance Double := do
  return .ofQuotient false (← Chance.below 1000) 1000

/-- A random decimal between the bounds that arguments give. -/
def randomDecimal (arguments : List (List Char)) : Chance (List Char) := do
  let zero := Double.zero false
  let one := Double.ofQuotient false 1 1
  let (low, high, rest) := (bounds? Double.read? zero one arguments).getD (zero, one, [])
  let x := ((← randomUnit).mul (high.sub low)).add low
  let places := places rest
  if placesLimit < places then throw .tooManyPlaces
  return (x.fixedText places).toList

/-- The length that the first argument gives. -/
def lengthOf (default : Nat) (arguments : List (List Char)) : Nat :=
  match arguments with
  | argument :: _ => ((readInt? argument).map Int.toNat).getD default
  | [] => default

/-- Whether an argument is a day offset: a sign and digits. -/
def isOffset (argument : List Char) : Bool :=
  match dropFinalLineFeed argument with
  | '+' :: digits | '-' :: digits => isAll isDigit digits
  | _ => false

/-- The date of today or of an offset from it, in a format that may itself have colons. -/
def formattedDate (clock : Int) (arguments : List (List Char)) : Except Fault (List Char) := do
  let now ← Moment.ofMilliseconds clock
  let standard := "YYYY-MM-DD".toList
  match arguments with
  | [] => return now.format standard
  | first :: rest =>
    if isOffset first then
      match readInt? first with
      | none => throw .numeralTooLong
      | some days =>
        let date ← now.date.addDays days
        let format := if rest.isEmpty then standard else join [':'] rest
        return Moment.format { now with date } format
    else return now.format (join [':'] (first :: rest))

/-- A time in milliseconds in twelve places, of which the sign of a time before 1970 takes one. -/
def timeDigits (clock : Int) : List Char :=
  if clock < 0 then '-' :: hexadecimal 11 clock.natAbs else hexadecimal 12 clock.natAbs

/-- An identifier of version 1: the first twelve places of the time, then random digits. -/
def timeIdentifier (clock : Int) : Chance (List Char) := do
  let time := timeDigits clock
  let first ← Chance.characters Chance.hexDigits 3
  let second ← Chance.characters Chance.hexDigits 4
  let third ← Chance.characters Chance.hexDigits 12
  return time.take 8 ++ '-' :: (time.drop 8).take 4 ++ '-' :: '1' :: first ++
    '-' :: second ++ '-' :: third

/-- The value that a generator makes of its arguments at a time. -/
def generate (clock : Int) (arguments : List (List Char)) : Generator → Chance (List Char)
  | .timestamp => return decimalInt (clock.tdiv 1000)
  | .timestampMs => return decimalInt clock
  | .isoTimestamp => return (← Moment.ofMilliseconds clock).utcText.toList
  | .localTimestamp => return (← Moment.ofMilliseconds clock).localText.toList
  | .date => do return ← formattedDate clock arguments
  | .uuid | .guid | .uuidV4 => Chance.randomIdentifier
  | .uuidV1 => timeIdentifier clock
  | .randomInt => randomInteger arguments
  | .randomFloat => randomDecimal arguments
  | .randomString => Chance.characters Chance.alphanumerics (lengthOf 16 arguments)
  | .randomHex => Chance.characters Chance.hexDigits (lengthOf 8 arguments)
  | .randomEmail => do
    return "user-".toList ++ (← Chance.characters Chance.hexDigits 5) ++ "@rext.dev".toList
  | .randomBoolean => do
    return (if (← Chance.below 1000) < 500 then "true" else "false").toList
  | .enum =>
    match enumValues (join [':'] arguments) with
    | [] => return []
    | first :: rest => Chance.pick [] (first :: rest)
  | .env => return "default".toList

/-- The generator and the arguments that a text names. -/
def call? (cs : List Char) : Option (Generator × List (List Char)) :=
  match pieces ':' cs with
  | [] => none
  | name :: arguments => (ofName? (String.ofList name)).map (·, arguments)

/-- The value that a text such as `$name:argument` asks for, if it names a generator. -/
def generate? (clock : Int) (cs : List Char) : Chance (Option (List Char)) :=
  match call? cs with
  | some (generator, arguments) => return some (← generate clock arguments generator)
  | none => return none

end Generator

end RequestScript
