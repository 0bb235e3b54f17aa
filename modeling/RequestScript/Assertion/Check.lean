import RequestScript.AccessPath
import RequestScript.Assertion
import RequestScript.Cookie
import RequestScript.Header

/-!
# Checking assertions

An assertion is checked against the parts of a response. The texts of both sides are compared,
except that order is the order of numbers, and nothing is ordered against what is not a number.
-/

namespace RequestScript

/-- The parts of a response that assertions speak of. -/
structure Findings where
  /-- The status code. -/
  status : Datum := .json .null
  /-- The parsed body. -/
  body : Datum := .json .null
  /-- The headers. -/
  headers : Headers := []
  /-- The duration of the run, in milliseconds. -/
  duration : Datum := .json .null
  /-- The size of the body, in bytes. -/
  size : Datum := .json .null
  /-- The cookies. -/
  cookies : List Cookie := []

namespace Assertion

/-- The datum that an assertion speaks of. An empty path is no path. -/
def actual (assertion : Assertion) (findings : Findings) : Except Fault Datum :=
  let path := assertion.path.filter (!·.isEmpty)
  match assertion.target with
  | .status => .ok findings.status
  | .body =>
    match path with
    | some path => AccessPath.get findings.body path
    | none => .ok findings.body
  | .header =>
    match path with
    | some name => .ok (.ofOption ((findings.headers.find? name).map .string))
    | none => .ok (.json (.ofStrings findings.headers))
  | .duration => .ok findings.duration
  | .size => .ok findings.size
  | .cookie =>
    match path with
    | some name =>
      .ok (.ofOption ((findings.cookies.find? (·.name == name)).map fun cookie =>
        .string cookie.value))
    | none => .ok .absent
  | .unknown _ => .ok .absent

/-- Whether a relation holds between the numbers of a datum and an expected text. -/
def orderedAs (relation : Double → Double → Bool) (actual : Datum) (expected : String) :
    Except Fault Bool := do
  let a ← actual.number
  let e ← Value.numberOfText expected
  return relation a e

/-- Whether a datum is as an operator and an expected text say; no text counts as empty. Whatever
the operator is, the datum has to have a text. -/
def holds (operator : Operator) (actual : Datum) (expected : Option String) :
    Except Fault Bool :=
  let expected := expected.getD ""
  if !actual.hasText then .error .numeralTooLong
  else match operator with
  | .equal => .ok (actual.text == expected)
  | .notEqual => .ok (actual.text != expected)
  | .greater => orderedAs (fun a e => e.lt a) actual expected
  | .less => orderedAs Double.lt actual expected
  | .atLeast => orderedAs (fun a e => e.le a) actual expected
  | .atMost => orderedAs Double.le actual expected
  | .contains => .ok (Text.occursIn expected.toList actual.text.toList)
  | .exists => .ok actual.exists?
  | .notExists => .ok !actual.exists?
  | .isArray => .ok (match actual with | .json (.array _) => true | _ => false)
  | .isNumber => actual.isNumber
  | .isNull => .ok (match actual with | .json .null => true | _ => false)
  | .isUndefined => .ok (match actual with | .absent => true | _ => false)
  | .isEmpty => .ok actual.isEmpty
  | .unknown _ => .ok false

/-- The outcome of a checked assertion. -/
structure Verdict where
  /-- The spelling of the assertion. -/
  label : String
  /-- Whether it holds. -/
  passed : Bool
  deriving DecidableEq

/-- Checks an assertion. -/
def check (findings : Findings) (assertion : Assertion) : Except Fault Verdict := do
  let actual ← assertion.actual findings
  return ⟨assertion.label, ← holds assertion.operator actual assertion.expected⟩

/-- Checks every assertion, in order; one that fails does not stop the rest. -/
def checkAll (findings : Findings) (assertions : List Assertion) : Except Fault (List Verdict) :=
  assertions.mapM (check findings)

end Assertion

end RequestScript
