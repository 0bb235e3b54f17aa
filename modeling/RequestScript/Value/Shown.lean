import RequestScript.Fault
import RequestScript.Value

/-!
# Values in a line

A value is shown in a line of text with capitalised words and a space after each comma and
colon. A string that is not inside a list or a map is shown without quotes.
-/

namespace RequestScript.Value

open Text

mutual

/-- The text of a value inside another one. -/
def shownInside : Value → List Char
  | .null => "None".toList
  | .bool true => "True".toList
  | .bool false => "False".toList
  | .int n => decimalInt n
  | .double x => x.text.toList
  | .string s => quoted s.toList
  | .array [] => ['[', ']']
  | .array (item :: items) => '[' :: shownInside item ++ shownItems items ++ [']']
  | .object [] => ['\x7b', '\x7d']
  | .object (field :: fields) =>
    '\x7b' :: shownField field ++ shownFields fields ++ ['\x7d']
termination_by structural value => value

/-- The items after the first of a list. -/
def shownItems : List Value → List Char
  | [] => []
  | item :: items => ',' :: ' ' :: shownInside item ++ shownItems items
termination_by structural items => items

/-- One field of a map. -/
def shownField : String × Value → List Char
  | (name, value) => quoted name.toList ++ ':' :: ' ' :: shownInside value
termination_by structural field => field

/-- The fields after the first of a map. -/
def shownFields : List (String × Value) → List Char
  | [] => []
  | field :: fields => ',' :: ' ' :: shownField field ++ shownFields fields
termination_by structural fields => fields

end

/-- The text of a value in a line. -/
def shown : Value → String
  | .string s => s
  | value => String.ofList value.shownInside

/-- A text with spaces after it up to a width. -/
def padEnd (width : Nat) (s : String) : String :=
  s ++ String.ofList (List.replicate (width - s.length) ' ')

/-- The text of a value in a column, with spaces up to a width. Truth values count as one and
zero there; `null`, lists and maps cannot stand in a column. -/
def column? (width : Nat) (value : Value) : Except Fault String :=
  match value with
  | .null | .array _ | .object _ => .error .wrongKind
  | .bool b => .ok (padEnd width (if b then "1" else "0"))
  | value => .ok (padEnd width value.shown)

end RequestScript.Value
