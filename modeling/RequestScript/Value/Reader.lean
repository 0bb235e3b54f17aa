import RequestScript.Depth
import RequestScript.Fault
import RequestScript.Text.Halves
import RequestScript.Value
import RequestScript.Value.ReadError

/-!
# Reading JSON texts

Blanks are the space, tab, line feed and carriage return. `NaN`, `Infinity` and `-Infinity` are
numbers. A control character in a string is an error, and so is an integer with more digits than
a numeral may have. Of equal names in an object the last value counts, at the first place. Arrays
and objects nested deeper than a limit are refused as soon as they open, whatever follows.
-/

namespace RequestScript.Value

open Text

/-- A blank between the tokens of a JSON text. -/
def isJsonBlank (c : Char) : Bool :=
  c == ' ' || c == '\t' || c == '\n' || c == '\r'

/-- A text without the blanks at its start. -/
def skipBlanks (cs : List Char) : List Char :=
  cs.dropWhile isJsonBlank

/-- The UTF-16 unit that four hexadecimal digits denote, and the text after them. They are not the
last characters of a text. -/
def readUnit? : List Char → Option (Nat × List Char)
  | a :: b :: c :: d :: rest => do
    let high := (← hexDigitValue? a) * 16 + (← hexDigitValue? b)
    let low := (← hexDigitValue? c) * 16 + (← hexDigitValue? d)
    if rest.isEmpty then none else return (high * 256 + low, rest)
  | _ => none

/-- The UTF-16 unit of the escape whose mark starts a text, and the text after it. -/
def readUnit (cs : List Char) : Except ReadError (Nat × List Char) :=
  match readUnit? (cs.drop 1) with
  | some found => .ok found
  | none => .error (.shownAt .unit cs)

/-- The character of the escape by UTF-16 units whose mark starts a text, and the text after it. Two
halves make one character; a half that stands alone becomes the replacement character. -/
def readEscapedUnit (cs : List Char) : Except ReadError (Char × List Char) := do
  let (unit, rest) ← readUnit cs
  if isHighHalf unit then
    match rest with
    | '\\' :: 'u' :: more =>
      let (low, after) ← readUnit ('u' :: more)
      if isLowHalf low then return (joinHalves unit low, after)
      else return (charAlone unit, rest)
    | _ => return (charAlone unit, rest)
  else return (charAlone unit, rest)

/-- The character that an escape letter stands for. -/
def escapedChar? (c : Char) : Option Char :=
  if c = '\x22' || c = '\\' || c = '/' then some c
  else if c = 'n' then some '\n'
  else if c = 'r' then some '\r'
  else if c = 't' then some '\t'
  else if c = 'b' then some '\x08'
  else if c = 'f' then some '\x0c'
  else none

/-- The characters up to the closing quote of the string that starts a text, and what follows it.
The fuel bounds the number of characters. -/
def readString (start : List Char) : Nat → List Char → Except ReadError (List Char × List Char)
  | 0, _ | _ + 1, [] => .error (.shownAt .openString start)
  | fuel + 1, c :: rest =>
    if c = '\x22' then .ok ([], rest)
    else if c = '\\' then
      match rest with
      | 'u' :: more => do
        let (escaped, after) ← readEscapedUnit ('u' :: more)
        let (cs, final) ← readString start fuel after
        return (escaped :: cs, final)
      | letter :: more =>
        match escapedChar? letter with
        | some escaped => do
          let (cs, final) ← readString start fuel more
          return (escaped :: cs, final)
        | none => .error (.shownAt .escape (c :: rest))
      | [] => .error (.shownAt .openString start)
    else if c.toNat < 0x20 then .error (.shownAt .control (c :: rest))
    else (readString start fuel rest).map fun (cs, final) => (c :: cs, final)

/-- Whether a character is an ASCII digit. -/
def isAsciiDigit (c : Char) : Bool :=
  '0' ≤ c && c ≤ '9'

/-- The digits before the fraction: a zero alone, or digits that start with another. -/
def readWhole? (cs : List Char) : Option (List Char × List Char) :=
  match cs.takeWhile isAsciiDigit with
  | [] => none
  | '0' :: _ => some (['0'], cs.drop 1)
  | digits => some (digits, cs.dropWhile isAsciiDigit)

/-- The digits of the fraction, if a point with a digit after it follows. -/
def readFraction (cs : List Char) : Option (List Char) × List Char :=
  match cs with
  | '.' :: rest =>
    match rest.takeWhile isAsciiDigit with
    | [] => (none, cs)
    | digits => (some digits, rest.dropWhile isAsciiDigit)
  | _ => (none, cs)

/-- The exponent, if a mark with a digit after it follows. -/
def readExponent (cs : List Char) : Option Int × List Char :=
  match cs with
  | c :: rest =>
    if c = 'e' || c = 'E' then
      let (negative, body) := takeSign rest
      match body.takeWhile isAsciiDigit with
      | [] => (none, cs)
      | digits =>
        let n : Int := natOfDigits digits
        (some (if negative then -n else n), body.dropWhile isAsciiDigit)
    else (none, cs)
  | [] => (none, cs)

/-- The integer that digits denote, unless there are too many of them. -/
def readWholeNumber (negative : Bool) (digits : List Char) : Except ReadError Value :=
  match readNat? digits with
  | some n => .ok (.int (if negative then -(n : Int) else n))
  | none => .error (.numeralTooLong digits.length)

/-- The number at the start of a text, and the text after it. -/
def readNumber (cs : List Char) : Except ReadError (Value × List Char) :=
  let (negative, body) := match cs with
    | '-' :: rest => (true, rest)
    | _ => (false, cs)
  match readWhole? body with
  | none => .error (.shownAt .value cs)
  | some (whole, rest) =>
    match readFraction rest with
    | (none, rest) =>
      match readExponent rest with
      | (none, rest) => (readWholeNumber negative whole).map (·, rest)
      | (some exponent, rest) =>
        .ok (.double (.ofDecimal negative (natOfDigits whole) exponent), rest)
    | (some fraction, rest) =>
      let (exponent, rest) := readExponent rest
      let digits := natOfDigits (whole ++ fraction)
      .ok (.double (.ofDecimal negative digits (exponent.getD 0 - fraction.length)), rest)

/-- The words that are values, with the text after one. -/
def readWord? (cs : List Char) : Option (Value × List Char) :=
  [("null", Value.null), ("true", .bool true), ("false", .bool false), ("NaN", .double .nan),
    ("Infinity", .double (.infinite false)), ("-Infinity", .double (.infinite true))].findSome?
    fun (word, value) =>
      if word.toList.isPrefixOf cs then some (value, cs.drop word.length) else none

mutual

/-- The value at the start of a text, and the text after it. The fuel bounds the number of
tokens and the length of strings, and `room` the depth of nesting. -/
def readValue (fuel room : Nat) (cs : List Char) : Except ReadError (Value × List Char) :=
  match fuel with
  | 0 => .error (.shownAt .value cs)
  | fuel + 1 =>
    match cs with
    | [] => .error (.shownAt .value [])
    | c :: rest =>
      if c = '\x22' then do
        let (s, rest) ← readString cs fuel rest
        return (.string (String.ofList s), rest)
      else if c = '[' then
        if room = 0 then .error .tooDeep
        else match skipBlanks rest with
          | ']' :: rest => .ok (.array [], rest)
          | rest => do
            let (items, rest) ← readItems fuel (room - 1) rest
            return (.array items, rest)
      else if c = '\x7b' then
        if room = 0 then .error .tooDeep
        else match skipBlanks rest with
          | '\x7d' :: rest => .ok (.object [], rest)
          | rest => do
            let (fields, rest) ← readFields fuel (room - 1) rest
            return (.object (Table.ofPairs fields), rest)
      else match readWord? cs with
        | some word => .ok word
        | none => readNumber cs
termination_by structural fuel

/-- The items of an array up to its closing bracket, at least one. -/
def readItems (fuel room : Nat) (cs : List Char) : Except ReadError (List Value × List Char) :=
  match fuel with
  | 0 => .error (.shownAt .value cs)
  | fuel + 1 => do
    let (item, rest) ← readValue fuel room cs
    match skipBlanks rest with
    | ']' :: rest => return ([item], rest)
    | ',' :: rest =>
      let (items, rest) ← readItems fuel room (skipBlanks rest)
      return (item :: items, rest)
    | rest => throw (.shownAt .comma rest)
termination_by structural fuel

/-- The fields of an object up to its closing brace, at least one. -/
def readFields (fuel room : Nat) (cs : List Char) :
    Except ReadError (List (String × Value) × List Char) :=
  match fuel with
  | 0 => .error (.shownAt .value cs)
  | fuel + 1 =>
    match cs with
    | '\x22' :: rest => do
      let (name, rest) ← readString cs fuel rest
      match skipBlanks rest with
      | ':' :: rest =>
        let (value, rest) ← readValue fuel room (skipBlanks rest)
        let field := (String.ofList name, value)
        match skipBlanks rest with
        | '\x7d' :: rest => return ([field], rest)
        | ',' :: rest =>
          let (fields, rest) ← readFields fuel room (skipBlanks rest)
          return (field :: fields, rest)
        | rest => throw (.shownAt .comma rest)
      | rest => throw (.shownAt .colon rest)
    | cs => .error (.shownAt .name cs)
termination_by structural fuel

end

/-- The value that a JSON text denotes, where there is room for so many arrays and objects inside
each other. -/
def ofJson (room : Nat) (cs : List Char) : Except ReadError Value := do
  if ['\ufeff'].isPrefixOf cs then throw (.shownAt .mark cs)
  let (value, rest) ← readValue (2 * (cs.length + 1)) room (skipBlanks cs)
  let rest := skipBlanks rest
  if rest.isEmpty then return value else throw (.shownAt .extra rest)

/-- The value that a JSON string denotes, if it denotes one. -/
def read? (s : String) : Option Value :=
  (ofJson Depth.limit s.toList).toOption

/-- The value that a JSON string denotes, if it denotes one. That it is nested too deeply for the
room there is is a fault. -/
def read (room : Nat) (s : String) : Except Fault (Option Value) :=
  match ofJson room s.toList with
  | .ok value => .ok (some value)
  | .error .tooDeep => .error .tooDeep
  | .error _ => .ok none

end RequestScript.Value
