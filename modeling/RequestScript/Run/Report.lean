import RequestScript.Assertion.Check
import RequestScript.Exchange
import RequestScript.Value.Writer

/-!
# Reports

A report tells how a run of a request went, with the reports of the runs before it. It is shown
as lines of text, or as the body of the response alone.
-/

namespace RequestScript

/-- How a run of a request went. -/
structure Report where
  method : String
  url : String
  name : Option String := none
  status : Int := 0
  /-- The duration in milliseconds, with that of the runs before. -/
  duration : Int := 0
  /-- The number of attempts made. -/
  attempts : Int := 1
  /-- The number of attempts allowed. -/
  maxAttempts : Int := 1
  /-- The body of the response, or the error. -/
  body : Datum := .json .null
  headers : Headers := []
  requestHeaders : Headers := []
  /-- The body that was sent, or a word for one that is no text. -/
  requestBody : Option String := none
  verdicts : List Assertion.Verdict := []
  /-- The size of the body of the response, in bytes. -/
  size : Nat := 0
  cookies : List Cookie := []
  /-- The reports of the runs before. -/
  before : List Report := []
  /-- The error that the last attempt failed with. -/
  error : Option String := none

open Text

namespace Report

/-- Whether a response came back. -/
def isOk (report : Report) : Bool :=
  report.error.isNone

/-- Whether a response came back that satisfies every assertion. -/
def isPassed (report : Report) : Bool :=
  report.isOk && report.verdicts.all (·.passed)

/-- The text of a body that is shown; `null` is not. Truth values are capitalised. -/
def bodyText? : Datum → Option String
  | .json .null => none
  | .json (.bool b) => some (if b then "True" else "False")
  | .json (.double x) => some x.text
  | .json (.array items) => some (Value.array items).pretty
  | .json (.object fields) => some (Value.object fields).pretty
  | .json value => some value.text
  | .absent => some "MISSING"
  | .binary data => some (Datum.binary data).text

/-- The body alone. -/
def rawText (report : Report) : String :=
  (bodyText? report.body).getD ""

/-- The line about a run before. -/
def beforeLine (report : Report) : Except Fault String := do
  let name := (report.name.filter (!·.isEmpty)).getD report.url
  return "[pre: " ++ name ++ "] STATUS: " ++ (← integerText report.status) ++
    " (" ++ (← integerText report.duration) ++ "ms)"

/-- The line about the number of attempts. -/
def attemptsLine (report : Report) : Except Fault String := do
  return "ATTEMPTS: " ++ (← integerText report.attempts) ++ "/" ++
    (← integerText report.maxAttempts)

/-- The line about an assertion. -/
def verdictLine (verdict : Assertion.Verdict) : String :=
  "  [" ++ (if verdict.passed then "PASS" else "FAIL") ++ "] " ++ verdict.label

/-- The lines about the size and the headers. -/
def detailLines (report : Report) : Except Fault (List String) := do
  let headers := report.headers.map fun (name, value) => "  " ++ name ++ ": " ++ value
  return ("SIZE: " ++ (← integerText report.size) ++ "B") ::
    if headers.isEmpty then [] else "HEADERS:" :: headers

/-- The lines about the assertions. -/
def verdictLines (report : Report) : List String :=
  if report.verdicts.isEmpty then [] else "ASSERTIONS:" :: report.verdicts.map verdictLine

/-- The lines about the body. -/
def bodyLines (report : Report) : List String :=
  match bodyText? report.body with
  | some body => ["BODY:", body]
  | none => []

/-- The lines about the response. -/
def responseLines (report : Report) (verbose : Bool) : Except Fault (List String) := do
  let status ← integerText report.status
  let duration ← integerText report.duration
  let attempts ← if 1 < report.maxAttempts then pure [← report.attemptsLine] else pure []
  let details ← if verbose then report.detailLines else pure []
  return ["STATUS: " ++ status, "TIME: " ++ duration ++ "ms"] ++ attempts ++ details ++
    report.verdictLines ++ report.bodyLines

/-- The lines of a report. An empty error counts as none here. -/
def lines (report : Report) (verbose : Bool) : Except Fault (List String) := do
  let before ← report.before.mapM beforeLine
  match report.error.filter (!·.isEmpty) with
  | some error => return before ++ ["ERROR: " ++ error, ← report.attemptsLine]
  | none => return before ++ (← report.responseLines verbose)

/-- The text of a report. A report with an integer that cannot be written has none, unless it is
the body alone. -/
def text (report : Report) (verbose raw : Bool) : Except Fault String :=
  if raw then .ok report.rawText
  else (report.lines verbose).map fun lines => "\n".intercalate lines

end Report

end RequestScript
