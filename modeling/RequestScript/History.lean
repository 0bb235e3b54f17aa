import RequestScript.Run.Report
import RequestScript.Value.Shown
import RequestScript.World

/-!
# Run history

The last runs are kept in a file in the home directory, the latest first. Headers that authorise
are left out. What cannot be read as JSON counts as no history.
-/

namespace RequestScript.History

/-- The name of the file in the home directory. -/
def fileName : String := ".rext_history.json"

/-- The number of runs that are kept. -/
def limit : Nat := 50

/-- The file that keeps the history. -/
def path : Action Path := do
  return (← getThe World).homePath.child fileName

/-- The history that a text holds. -/
def ofText (text : String) : Except Fault Value := do
  return (← Value.read Depth.limit text).getD (.array [])

/-- The history as the file holds it; it may be any value. -/
def load : Action Value := do
  match ← Action.readText? (← path) with
  | some text => return ← ofText text
  | none => return .array []

/-- The headers of a request that may be kept. -/
def keptHeaders (headers : Headers) : Headers :=
  headers.without "authorization"

/-- What the history says about an assertion. -/
def ofVerdict (verdict : Assertion.Verdict) : Value :=
  .object [("label", .string verdict.label), ("pass", .bool verdict.passed)]

/-- A field that is left out where there is nothing to say. -/
def optionalField (name : String) (value : Value) : List (String × Value) :=
  if value.isGiven then [(name, value)] else []

/-- A text, or `null`. -/
def ofText? (text : Option String) : Value :=
  match text with
  | some text => .string text
  | none => .null

/-- The entry for a run of a request with an identifier. -/
def entry (report : Report) (id : Option String) (timestamp : String) : Value :=
  .object ([("method", .string report.method), ("url", .string report.url),
    ("status", .int report.status), ("duration_ms", .int report.duration),
    ("timestamp", .string timestamp)]
    ++ optionalField "name" (ofText? report.name)
    ++ optionalField "id" (ofText? id)
    ++ optionalField "headers" (.ofStrings (keptHeaders report.requestHeaders))
    ++ optionalField "assertions" (.array (report.verdicts.map ofVerdict)))

/-- The history with one more entry. It has to be a list. -/
def add (entry : Value) : Value → Except Fault (List Value)
  | .array entries => .ok ((entry :: entries).take limit)
  | _ => .error .notAList

/-- Adds a run to the history. -/
def save (report : Report) (id : Option String) : Action Unit := do
  let history ← load
  let moment ← Moment.ofMilliseconds (← getThe World).clock
  let entries ← add (entry report id moment.isoText) history
  if !Value.areWritable entries then throw .numeralTooLong
  let path ← path
  let _ ← Action.orRefused path (Action.writeText path (Value.array entries).pretty)

/-- The members that a value offers one by one: the items of a list, the names of a map or the
characters of a text. -/
def members : Value → Except Fault (List Value)
  | .array items => .ok items
  | .object fields => .ok ((Table.names fields).map .string)
  | .string s => .ok (s.toList.map fun c => .string c.toString)
  | _ => .error .wrongKind

/-- The line about an entry. -/
def line (index : Nat) (entry : Value) : Except Fault String :=
  match entry with
  | .object fields => do
    let get (name fallback : String) : Value :=
      (Table.get? fields name).getD (.string fallback)
    let name := (Table.get? fields "name").getD .null
    let label := if name.isGiven then name else get "url" "?"
    let method ← (get "method" "?").column? 6
    return "  [" ++ toString index ++ "] " ++ method ++ " " ++ label.shown ++ "  " ++
      (get "status" "?").shown ++ "  (" ++ (get "timestamp" "").shown ++ ")"
  | _ => .error .notAMap

/-- Prints lines about entries, up to the first that is none. -/
def printEntries (index : Nat) : List Value → Action Unit
  | [] => return
  | entry :: rest => do
    Action.print (← line index entry)
    printEntries (index + 1) rest

/-- Prints the history. -/
def print : Action Unit := do
  let history ← load
  if !history.isGiven then Action.print "No run history."
  else
    Action.print "Run history:\n"
    printEntries 0 (← members history)

end RequestScript.History
