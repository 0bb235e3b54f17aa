import RequestScript.Mime
import RequestScript.Run.Capture
import RequestScript.Run.Plan
import RequestScript.Run.Report
import RequestScript.Script.Resolved

/-!
# Running requests

A request is interpolated once, after the requests before it have run, and sent until an attempt
succeeds or the attempts run out. Captures and assertions look at the last attempt. A failed
request is a report like any other.
-/

namespace RequestScript

/-- What a runner falls back on where a request says nothing. -/
structure Defaults where
  /-- The wait before another attempt, in milliseconds. -/
  retryDelay : Int := 500
  /-- The timeout in milliseconds. -/
  timeout : Option Int := none

/-- A request that is ready to be sent, as often as necessary. -/
structure Prepared where
  method : String
  url : String
  headers : Headers
  payload : Payload := .nothing
  /-- The body as a report shows it. -/
  shown : Option String := none

namespace Request

open Capture (runLog)

/-- A part of a form; a file that is not there is left out. -/
def preparePart (request : Request) (field : FormField) : Action (Option Part) := do
  match field.file.filter (!·.isEmpty) with
  | none => return some (.text field.key (← Action.interpolate field.value))
  | some file =>
    let path := request.filePathOf (← Action.interpolate file)
    if ← Action.isFile path then
      let content ← Action.readBytes path
      let mime := (field.mime.filter (!·.isEmpty)).getD (Mime.ofPath path)
      return some (.file field.key path.name content mime)
    else
      Action.log runLog ("Skipping form file " ++ path.text ++ " (not found)")
      return none

/-- The body that a file holds: an interpolated text, or bytes, or nothing where there is no such
file. -/
def prepareFile (request : Request) (file : String) : Action (Payload × Option String) := do
  let path := request.filePathOf (← Action.interpolate file)
  if ← Action.isFile path then
    if Mime.isText (Mime.ofPath path) then
      let text ← Action.interpolate (← Action.readText path)
      return (.text text, some text)
    else
      return (.bytes (← Action.readBytes path), some "[binary]")
  else
    Action.log runLog ("Body file " ++ path.text ++ " not found, sending no body")
    return (.nothing, none)

/-- The body of a request: its form, or else its body file, or else its inline body. -/
def preparePayload (request : Request) : Action (Payload × Option String) := do
  if !request.form.isEmpty then
    let parts ← request.form.mapM request.preparePart
    return (.form (parts.filterMap fun part => part), some "[multipart]")
  else match request.bodyFile.filter (!·.isEmpty), request.body.filter (!·.isEmpty) with
    | some file, _ => request.prepareFile file
    | none, some body =>
      let text ← Action.interpolate body
      return (.text text, some text)
    | none, none => return (.nothing, none)

/-- A request made ready to be sent. -/
def prepare (request : Request) : Action Prepared := do
  let url ← request.resolveUrl
  let headers ← request.resolveHeaders
  let (payload, shown) ← request.preparePayload
  return { method := request.method, url, headers, payload, shown }

/-- The number of attempts that a request allows. -/
def maxAttempts (request : Request) : Int :=
  match request.retry with
  | some retry => retry.count + 1
  | none => 1

/-- The wait before another attempt, in milliseconds. -/
def retryDelay (request : Request) (defaults : Defaults) : Int :=
  match request.retry.bind (·.delay) with
  | some delay => delay
  | none => defaults.retryDelay

/-- The timeout of a request in seconds; zero counts as none. -/
def timeoutSeconds (request : Request) (defaults : Defaults) :
    Except Fault (Option Seconds) :=
  let given := (request.timeout.filter (· != 0)).orElse fun _ => defaults.timeout
  match given.filter (· != 0) with
  | none => .ok none
  | some milliseconds =>
    match Double.thousandth? milliseconds with
    | some seconds => .ok (some (.fraction seconds))
    | none => .error .numberTooLarge

/-- The text of an integer in a log. -/
def logged (n : Int) : String :=
  String.ofList (Text.decimalInt n)

/-- Sends a request until an attempt does not fail or the attempts run out. What comes back is
the last outcome and the number of attempts made. -/
def attempt (prepared : Prepared) (timeout : Option Seconds) (delay maxAttempts : Int)
    (made : Int) : Nat → Action (Outcome × Int)
  | 0 => do
    return (← Action.exchange prepared.method prepared.url (some prepared.headers)
      prepared.payload timeout, made)
  | left + 1 => do
    let outcome ← Action.exchange prepared.method prepared.url (some prepared.headers)
      prepared.payload timeout
    if outcome.isFailed then
      let reason := (outcome.error.filter (!·.isEmpty)).getD (logged outcome.status)
      Action.log runLog
        ("Attempt " ++ logged made ++ "/" ++ logged maxAttempts ++ " of " ++
          prepared.method ++ " " ++ prepared.url ++ " failed (" ++ reason ++
          "), retrying in " ++ logged delay ++ "ms")
      Action.sleep delay
      attempt prepared timeout delay maxAttempts (made + 1) left
    else return (outcome, made)

/-- The milliseconds that have passed since a time. -/
def elapsedSince (start : Int) : Action Int := do
  return (← getThe World).elapsed - start

/-- Keeps what a request captures from its last outcome, and reports on it after so many
attempts. -/
def conclude (request : Request) (prepared : Prepared) (before : List Report) (start : Int)
    (outcome : Outcome) (attempts : Int) : Action Report := do
  let report : Report := {
    method := prepared.method
    url := prepared.url
    name := request.name
    attempts
    maxAttempts := request.maxAttempts
    requestHeaders := prepared.headers
    requestBody := prepared.shown
    before }
  match outcome.error with
  | some error =>
    return { report with
      duration := ← elapsedSince start
      body := .ofString error
      error := some error }
  | none =>
    request.captures.forM (Capture.keep outcome)
    let duration ← elapsedSince start
    let body := Datum.json outcome.body
    let cookies := Cookie.ofHeaders outcome.cookieHeaders
    let findings : Findings := {
      status := .json (.int outcome.status)
      body
      headers := outcome.headers
      duration := .json (.int duration)
      size := .json (.int body.size)
      cookies }
    let verdicts ← Assertion.checkAll findings request.assertions
    return { report with
      status := outcome.status
      duration
      body
      headers := outcome.headers
      verdicts
      size := body.size
      cookies }

/-- Sends a prepared request, keeps what it captures, and reports on it. -/
def dispatch (request : Request) (defaults : Defaults) (prepared : Prepared)
    (before : List Report) (start : Int) : Action Report := do
  let timeout ← request.timeoutSeconds defaults
  let (outcome, attempts) ← attempt prepared timeout (request.retryDelay defaults)
    request.maxAttempts 1 (request.maxAttempts - 1).toNat
  request.conclude prepared before start outcome attempts

/-- Runs a request after the given reports. -/
def runAfter (request : Request) (defaults : Defaults) (start : Int) (before : List Report) :
    Action Report := do
  request.dispatch defaults (← request.prepare) before start

mutual

/-- Runs the request of a step, if it has one. -/
def runStep (defaults : Defaults) : Step → Action (Option Report)
  | .run request before => do
    let report ← Action.deeper Depth.ofRequest do
      let start := (← getThe World).elapsed
      let reports ← runSteps defaults before
      request.runAfter defaults start reports
    return some report
  | .repeated id => do
    Action.log runLog ("Skipping pre-request " ++ id ++ " (already run)")
    return none
  | .unknown id => do
    Action.log runLog ("Skipping unknown pre-request " ++ id)
    return none
termination_by structural step => step

/-- Runs the requests of steps, one after another. -/
def runSteps (defaults : Defaults) : List Step → Action (List Report)
  | [] => return []
  | step :: rest => do
    let report ← runStep defaults step
    let reports ← runSteps defaults rest
    return report.toList ++ reports
termination_by structural steps => steps

end

/-- Runs a request after the requests that it refers to. -/
def run (request : Request) (requests : List Request) (defaults : Defaults) : Action Report := do
  let start := (← getThe World).elapsed
  let reports ← runSteps defaults (Plan.before requests request)
  request.runAfter defaults start reports

/-- Runs every request in order, each by itself. -/
def runAll (requests : List Request) (defaults : Defaults) : Action (List Report) :=
  requests.mapM fun request => request.run requests defaults

end Request

end RequestScript
