import RequestScript.Text.Numeral
import RequestScript.Text.Split
import RequestScript.Yaml.Scalar.Time

/-!
# Kinds of nodes

A node is of the kind that its tag says. A word without quotes and without a tag is of the kind
that it looks like: truth values, numbers and times are told by their spelling, and any other word
is a text.
-/

namespace RequestScript.Yaml

open Text

/-- What a node is read as. -/
inductive Kind where
  | null
  | bool
  | int
  | float
  | time
  | binary
  | text
  | list
  | map
  /-- A list of maps with one field each. -/
  | pairs
  | set
  /-- The name of a field whose maps are taken into the map around it. -/
  | merge
  /-- The name of the field that stands for the whole map. -/
  | default
  /-- A kind that nothing is known about. -/
  | unknown
  deriving DecidableEq

namespace Kind

/-- The start of the tags that have a meaning. -/
def tagStart : String := "tag:yaml.org,2002:"

/-- The rest of the tags that have a meaning. -/
def tagNames : List (String × Kind) :=
  [("null", .null), ("bool", .bool), ("int", .int), ("float", .float), ("timestamp", .time),
    ("binary", .binary), ("str", .text), ("seq", .list), ("map", .map), ("omap", .pairs),
    ("pairs", .pairs), ("set", .set), ("merge", .merge), ("value", .default)]

/-- The kind that a tag says. -/
def ofTag (tag : String) : Kind :=
  match dropStart? tagStart.toList tag.toList with
  | some name => (tagNames.lookup (String.ofList name)).getD .unknown
  | none => .unknown

/-- Whether nodes of a kind hold other nodes. -/
def isCollection : Kind → Bool
  | .list | .map | .pairs | .set => true
  | _ => false

/-- The words for truth values. -/
def boolWords : List String :=
  ["yes", "Yes", "YES", "no", "No", "NO", "true", "True", "TRUE", "false", "False", "FALSE", "on",
    "On", "ON", "off", "Off", "OFF"]

/-- The words for nothing. -/
def nullWords : List String :=
  ["", "~", "null", "Null", "NULL"]

/-- An ASCII digit, or an underscore that groups digits. -/
def isGroupedDigit (c : Char) : Bool :=
  c.isDigit || c == '_'

/-- Whether a text is made of grouped digits and starts with a digit. -/
def isDigits : List Char → Bool
  | c :: rest => c.isDigit && rest.all isGroupedDigit
  | [] => false

/-- Whether a text is a part after a colon of a number in base sixty. -/
def isSixtieth : List Char → Bool
  | [a] => a.isDigit
  | [a, b] => '0' ≤ a && a ≤ '5' && b.isDigit
  | _ => false

/-- Whether a text is an unsigned number in base sixty with a colon. -/
def isSexagesimal (cs : List Char) : Bool :=
  match pieces ':' cs with
  | first :: second :: rest => isDigits first && (second :: rest).all isSixtieth
  | _ => false

/-- Whether a text is an exponent or empty. An exponent has a sign. -/
def isExponent : List Char → Bool
  | [] => true
  | mark :: sign :: digits =>
    (mark == 'e' || mark == 'E') && (sign == '-' || sign == '+') && isAll Char.isDigit digits
  | _ => false

/-- Whether a text is a number with a point and without a sign of its own. A number that starts with
its point takes no sign, and one in base sixty no exponent. -/
def isFraction (signed : Bool) (cs : List Char) : Bool :=
  match cut? '.' cs with
  | some (whole, rest) =>
    let fraction := rest.takeWhile isGroupedDigit
    let exponent := rest.drop fraction.length
    (isDigits whole && isExponent exponent) || (isSexagesimal whole && exponent.isEmpty) ||
      (!signed && whole.isEmpty && isDigits fraction && isExponent exponent)
  | none => false

/-- Whether a word is a number with a point, an infinity or not a number. -/
def isFloat (cs : List Char) : Bool :=
  let (_, body) := takeSign cs
  [".inf", ".Inf", ".INF"].contains (String.ofList body) ||
    [".nan", ".NaN", ".NAN"].contains (String.ofList cs) ||
    isFraction (body.length != cs.length) body

/-- Whether a word is an integer: binary, octal, decimal, hexadecimal or in base sixty. -/
def isInt (cs : List Char) : Bool :=
  match (takeSign cs).2 with
  | ['0'] => true
  | '0' :: 'b' :: digits => isAll (fun c => c == '0' || c == '1' || c == '_') digits
  | '0' :: 'x' :: digits => isAll (fun c => (hexDigitValue? c).isSome || c == '_') digits
  | '0' :: digits => isAll (fun c => ('0' ≤ c && c ≤ '7') || c == '_') digits
  | body => isDigits body || isSexagesimal body

/-- The kind that a word looks like. A line feed at its end does not count. -/
def ofWord (word : String) : Kind :=
  if word == "\n" then .text
  else
    let cs := dropFinalLineFeed word.toList
    let word := String.ofList cs
    if boolWords.contains word then .bool
    else if isFloat cs then .float
    else if isInt cs then .int
    else if word = "<<" then .merge
    else if nullWords.contains word then .null
    else if Time.isWord cs then .time
    else if word = "=" then .default
    else .text

end Kind

end RequestScript.Yaml
