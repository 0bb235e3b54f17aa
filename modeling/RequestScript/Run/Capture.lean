import RequestScript.AccessPath
import RequestScript.Script.Request
import RequestScript.Variables.Keeping

/-!
# Captures

The query of a capture is a literal, in quotes or a number or a truth value, or it names the
status, a header in its exact spelling, or a place in the body. What is found is kept as a
variable; where nothing is found nothing is kept.
-/

namespace RequestScript

open Text

namespace Capture

/-- A single or double quote. -/
def isQuote (c : Char) : Bool :=
  c == '\x22' || c == '\x27'

/-- The text between the quotes of a quoted literal; the quotes need not be the same. -/
def quotedLiteral? (cs : List Char) : Option (List Char) :=
  match cs with
  | first :: rest =>
    match rest.reverse with
    | last :: inner =>
      if isQuote first && isQuote last && !inner.contains '\n' then some inner.reverse else none
    | [] => none
  | [] => none

/-- Whether a text is a numeral: digits with an optional fraction. -/
def isNumeral (cs : List Char) : Bool :=
  match cut? '.' cs with
  | some (whole, fraction) => isAll isDigit whole && isAll isDigit fraction
  | none => isAll isDigit cs

/-- Whether a text is a literal that stands for itself. -/
def isPlainLiteral (cs : List Char) : Bool :=
  isNumeral cs || cs == "true".toList || cs == "false".toList

/-- What a query finds in a response with a status, headers and a body. A body that is `null`
has no places. -/
def find (query : String) (status : Int) (headers : Headers) (body : Datum) :
    Except Fault Datum :=
  let cs := trim query.toList
  match quotedLiteral? cs with
  | some literal => .ok (.ofString (String.ofList literal))
  | none =>
    if isPlainLiteral cs then .ok (.ofString (String.ofList cs))
    else if cs = "status".toList then .ok (.json (.int status))
    else match dropStart? "header.".toList cs with
      | some name =>
        .ok (.ofOption ((Table.get? headers (String.ofList name)).map .string))
      | none =>
        match body with
        | .json .null => .ok .absent
        | body => AccessPath.extract body (String.ofList cs)

/-- What the program logs its runs under. -/
def runLog : String := "rext.runner"

/-- Keeps what a capture finds in an outcome. -/
def keep (outcome : Outcome) (capture : Capture) : Action Unit := do
  match ← find capture.query outcome.status outcome.headers (.json outcome.body) with
  | .absent =>
    Action.log runLog
      ("Capture " ++ capture.variableName ++ " = " ++ capture.query ++ " matched nothing")
  | value =>
    Store.set capture.scope capture.variableName value
    if capture.scope = .env then Store.keep capture.variableName value

end Capture

end RequestScript
