import RequestScript.Text.Blank
import RequestScript.Text.Split

/-!
# Assertions

An assertion compares a part of a response with an expected text: `status == 200`,
`body.items isArray`, `header.Content-Type contains json`. Its label is its canonical spelling,
which parses to the assertion again.
-/

namespace RequestScript

open Text

/-- The part of a response that an assertion is about. -/
inductive Target where
  | status
  | body
  | header
  | duration
  | size
  | cookie
  /-- A word that names no part of a response. -/
  | unknown (word : String)
  deriving DecidableEq

namespace Target

/-- The target that a word names. -/
def ofWord : String → Target
  | "status" => .status
  | "body" => .body
  | "header" => .header
  | "duration" => .duration
  | "size" => .size
  | "cookie" => .cookie
  | word => .unknown word

/-- The word for a target. -/
def word : Target → String
  | .status => "status"
  | .body => "body"
  | .header => "header"
  | .duration => "duration"
  | .size => "size"
  | .cookie => "cookie"
  | .unknown word => word

/-- Whether a target is a part of a response. -/
def isKnown : Target → Bool
  | .unknown _ => false
  | _ => true

theorem word_ofWord (word : String) : (ofWord word).word = word := by
  unfold ofWord
  split <;> rfl

end Target

/-- What an assertion says about its target. -/
inductive Operator where
  | exists
  | notExists
  | isArray
  | isNumber
  | isNull
  | isUndefined
  | isEmpty
  | equal
  | notEqual
  | atLeast
  | atMost
  | greater
  | less
  | contains
  /-- A word that is no operator; nothing satisfies it. -/
  | unknown (word : String)
  deriving DecidableEq

namespace Operator

/-- The operator that a word names. -/
def ofWord : String → Operator
  | "exists" => .exists
  | "!exists" => .notExists
  | "isArray" => .isArray
  | "isNumber" => .isNumber
  | "isNull" => .isNull
  | "isUndefined" => .isUndefined
  | "isEmpty" => .isEmpty
  | "==" => .equal
  | "!=" => .notEqual
  | ">=" => .atLeast
  | "<=" => .atMost
  | ">" => .greater
  | "<" => .less
  | "contains" => .contains
  | word => .unknown word

/-- The word for an operator. -/
def word : Operator → String
  | .exists => "exists"
  | .notExists => "!exists"
  | .isArray => "isArray"
  | .isNumber => "isNumber"
  | .isNull => "isNull"
  | .isUndefined => "isUndefined"
  | .isEmpty => "isEmpty"
  | .equal => "=="
  | .notEqual => "!="
  | .atLeast => ">="
  | .atMost => "<="
  | .greater => ">"
  | .less => "<"
  | .contains => "contains"
  | .unknown word => word

/-- Whether an operator takes no expected text. -/
def isUnary : Operator → Bool
  | .exists | .notExists | .isArray | .isNumber | .isNull | .isUndefined | .isEmpty => true
  | _ => false

/-- Whether an operator compares with an expected text. -/
def isBinary : Operator → Bool
  | .equal | .notEqual | .atLeast | .atMost | .greater | .less | .contains => true
  | _ => false

theorem word_ofWord (word : String) : (ofWord word).word = word := by
  unfold ofWord
  split <;> rfl

end Operator

/-- An assertion about a response. -/
structure Assertion where
  /-- The part of the response. -/
  target : Target
  /-- What is said about it. -/
  operator : Operator
  /-- The place inside that part. -/
  path : Option String := none
  /-- The text it is compared with. -/
  expected : Option String := none
  deriving DecidableEq

namespace Assertion

/-- The canonical spelling of an assertion. -/
def label (assertion : Assertion) : String :=
  let path := match assertion.path with
    | some path => if path.isEmpty then "" else "." ++ path
    | none => ""
  let expected := match assertion.expected with
    | some expected => " " ++ expected
    | none => ""
  assertion.target.word ++ path ++ " " ++ assertion.operator.word ++ expected

/-- The target and path that the first word of an assertion names. -/
def subject (word : List Char) : Target × Option String :=
  match cut? '.' word with
  | none => (.ofWord (String.ofList word), none)
  | some (target, path) =>
    (.ofWord (String.ofList target), if path.isEmpty then none else some (String.ofList path))

/-- The first word of a text, and the text after the blanks that end the word. -/
def nextWord (cs : List Char) : List Char × List Char :=
  (cs.takeWhile (!isBlank ·), trimStart (cs.dropWhile (!isBlank ·)))

/-- The assertion that an expression spells, if it is one: a subject and a unary operator, or a
subject, a binary operator and an expected text on one line. -/
def ofChars? (expression : List Char) : Option Assertion :=
  let cs := trim expression
  let cs := ((dropStart? "@assert".toList cs).map trim).getD cs
  let (first, afterFirst) := nextWord cs
  let (second, expected) := nextWord afterFirst
  let (target, path) := subject first
  let operator := Operator.ofWord (String.ofList second)
  if !target.isKnown then none
  else if operator.isUnary && expected.isEmpty then
    some { target, operator, path }
  else if operator.isBinary && !expected.isEmpty && !expected.contains '\n' then
    some { target, operator, path, expected := some (String.ofList (trim expected)) }
  else none

/-- The assertion that an expression spells. -/
def parse? (expression : String) : Option Assertion :=
  ofChars? expression.toList

end Assertion

end RequestScript
