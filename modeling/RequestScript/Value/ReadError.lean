import RequestScript.Text.Numeral

/-!
# Why a JSON text cannot be read

What is wrong with a text, where in it that shows, and what is said about it.
-/

namespace RequestScript.Value

open Text

/-- What is wrong with a text that is no JSON text. -/
inductive Problem where
  /-- There is a byte order mark. -/
  | mark
  /-- No value starts here. -/
  | value
  /-- No name of a field starts here. -/
  | name
  /-- There is no colon here. -/
  | colon
  /-- There is no comma here. -/
  | comma
  /-- The string that starts here does not end. -/
  | openString
  /-- A control character stands here in a string. -/
  | control
  /-- No escape starts here. -/
  | escape
  /-- No UTF-16 unit is spelled here. -/
  | unit
  /-- There is something after the value. -/
  | extra
  deriving DecidableEq

/-- The words for a problem. -/
def Problem.text : Problem → String
  | .mark => "Unexpected UTF-8 BOM (decode using utf-8-sig)"
  | .value => "Expecting value"
  | .name => "Expecting property name enclosed in double quotes"
  | .colon => "Expecting \x27:\x27 delimiter"
  | .comma => "Expecting \x27,\x27 delimiter"
  | .openString => "Unterminated string starting at"
  | .control => "Invalid control character at"
  | .escape => "Invalid \\escape"
  | .unit => "Invalid \\uXXXX escape"
  | .extra => "Extra data"

/-- Why a text is not read as a value. -/
inductive ReadError where
  /-- It is no JSON text. So many characters of it are left where that shows. -/
  | malformed (problem : Problem) (left : Nat)
  /-- It has an integer with so many digits, which are too many. -/
  | numeralTooLong (digits : Nat)
  /-- Its arrays and objects are nested too deeply. -/
  | tooDeep
  deriving DecidableEq

namespace ReadError

/-- The error that a problem shows at the start of a text. -/
def shownAt (problem : Problem) (cs : List Char) : ReadError :=
  .malformed problem cs.length

/-- The place after some characters: its line, its column, both from one, and its index. -/
def placeText (before : List Char) : String :=
  let line := before.count '\n' + 1
  let column := (before.reverse.takeWhile (· != '\n')).length + 1
  "line " ++ String.ofList (decimal line) ++ " column " ++ String.ofList (decimal column) ++
    " (char " ++ String.ofList (decimal before.length) ++ ")"

/-- What is said about an error in a text. -/
def message (text : List Char) : ReadError → String
  | .malformed problem left =>
    problem.text ++ ": " ++ placeText (text.take (text.length - left))
  | .numeralTooLong digits =>
    "Exceeds the limit (" ++ String.ofList (decimal digitLimit) ++
      " digits) for integer string conversion: value has " ++ String.ofList (decimal digits) ++
      " digits; use sys.set_int_max_str_digits() to increase the limit"
  | .tooDeep => "maximum recursion depth exceeded"

end ReadError

end RequestScript.Value
