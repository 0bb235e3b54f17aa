import RequestScript.CommandLine.Arguments
import RequestScript.History
import RequestScript.Script.Source
import RequestScript.Settings

/-!
# The command

The command runs requests of a script and prints a report on each, lists them, shows them with
their placeholders replaced, or shows the history of runs. It ends with status 1 where a run
failed and with status 2 where it was called wrongly.
-/

namespace RequestScript.CommandLine

/-- The line about an option in the message on how the command is used. -/
def usageLine (option : Argument) : String :=
  let letter := match option.letter with
    | some letter => "-" ++ letter.toString ++ ", "
    | none => "    "
  let value := match option.setting with
    | .valued _ => " VALUE"
    | .switch _ => ""
  "  " ++ Value.padEnd 24 (letter ++ "--" ++ option.word ++ value) ++ option.description

/-- How the command is used. -/
def usage : String :=
  "Usage: rext [OPTIONS] [FILE]\n\n  Run requests that are described in FILE.\n\nOptions:\n" ++
    "\n".intercalate (options.map usageLine)

/-- What a request is listed with, on a line of its own. -/
def flags (request : Request) : List String :=
  (if request.deprecated then ["deprecated"] else [])
    ++ (if request.tags.isEmpty then [] else ["tags: " ++ ", ".intercalate request.tags])
    ++ (if request.pre.isEmpty then [] else ["pre: " ++ ", ".intercalate request.pre])

/-- The lines about a request in a list. -/
def listLines (request : Request) : List String :=
  let id := (request.id.filter (!·.isEmpty)).getD "------"
  let name := match request.name.filter (!·.isEmpty) with
    | some name => "  — " ++ name
    | none => ""
  ("  " ++ id ++ "  " ++ Value.padEnd 7 request.method ++ " " ++ request.url ++ name) ::
    if (flags request).isEmpty then []
    else ["          " ++ " | ".intercalate (flags request)]

/-- What is wrong with the identifiers and references of a script. -/
def warnings (requests : List Request) : List String :=
  ((requests.filter (·.hasMissingId)).map fun request =>
    "missing @id: " ++ request.displayName ++ " (line " ++ toString (request.startLine + 1) ++ ")")
  ++ ((Request.missingReferences requests).map fun (request, id) =>
    "unknown @pre " ++ id ++ " in " ++ request.displayName)
  ++ ((Request.duplicates requests).map fun (id, requests) =>
    "duplicate @id " ++ id ++ " (" ++ toString requests.length ++ " requests)")

/-- The list of the requests of a script. -/
def listing (requests : List Request) : List String :=
  if requests.isEmpty then ["No requests found."]
  else
    (toString requests.length ++ " requests:\n") :: requests.flatMap listLines
      ++ match warnings requests with
        | [] => []
        | warnings => "\nWarnings:" :: warnings.map ("  " ++ ·)

/-- The line about a part of a form. -/
def formLine (field : FormField) : String :=
  let value := match field.file.filter (!·.isEmpty) with
    | some file => "@" ++ file
    | none => field.value
  "[form] " ++ field.key ++ " = " ++ value

/-- The lines about what a request would send. -/
def resolvedLines (request : ResolvedRequest) : List String :=
  (request.method ++ " " ++ request.url) ::
    (request.headers.map fun (name, value) => name ++ ": " ++ value)
    ++ (if !request.form.isEmpty then request.form.map formLine
      else match request.bodyFile.filter (!·.isEmpty), request.body.filter (!·.isEmpty) with
        | some file, _ => ["[file] " ++ file]
        | none, some body => ["", body]
        | none, none => [])
    ++ [""]

/-- Shows what requests would send. -/
def showResolved (requests : List Request) : Action Unit :=
  requests.forM fun request => do
    (resolvedLines (← request.resolve)).forM Action.print

/-- Runs requests, prints a report on each and adds it to the history. What comes back is whether
all of them passed. -/
def runTargets (arguments : Arguments) (requests : List Request) (defaults : Defaults)
    (headed first : Bool) : List Request → Action Bool
  | [] => return true
  | target :: rest => do
    if headed then
      if !first then Action.print ""
      Action.print ("### " ++ target.displayName)
    let report ← target.run requests defaults
    Action.print (← report.text arguments.verbose arguments.raw)
    History.save report target.id
    let others ← runTargets arguments requests defaults headed false rest
    return report.isPassed && others

/-- Sets a session variable that is given as `key=value`. Other texts are left out. -/
def setVariable (text : String) : Action Unit :=
  match Text.cut? '=' text.toList with
  | some (name, value) =>
    Store.set .session (String.ofList (Text.trim name))
      (.ofString (String.ofList (Text.trim value)))
  | none => return

/-- The message that no request is the selected one. -/
def notSelected (arguments : Arguments) (file : String) : String :=
  let label := (arguments.id.filter (!·.isEmpty)).orElse fun _ =>
    arguments.name.filter (!·.isEmpty)
  match label with
  | some label => "ERROR: Request \x27" ++ label ++ "\x27 not found in " ++ file ++ "."
  | none => "ERROR: No requests found in " ++ file ++ "."

/-- The requests that are to be run, if there are any. -/
def targets? (arguments : Arguments) (requests : List Request) : Option (List Request) :=
  if arguments.all then some requests
  else (Request.select? requests arguments.id arguments.name).map fun request => [request]

/-- Runs requests one after the other. The status of the command comes back. -/
def runRequests (arguments : Arguments) (requests : List Request) (defaults : Defaults)
    (targets : List Request) : Action Nat := do
  let headed := 1 < targets.length
  let passed ← runTargets arguments requests defaults headed true targets
  return if passed then 0 else 1

/-- Does what is asked for with a script that has been read from a file. The status of the command
comes back. -/
def serve (arguments : Arguments) (file : String) (document : Document) : Action Nat := do
  if arguments.list then
    (listing document.requests).forM Action.print
    return 0
  let settings ← Settings.load (← Settings.locate arguments.config)
  let values ← settings.processVariables
  settings.equip values (some (Path.ofString file)) arguments.environment
  arguments.assignments.forM setVariable
  match targets? arguments document.requests with
  | none =>
    Action.complain (notSelected arguments file)
    return 1
  | some targets =>
    if arguments.resolve then
      showResolved targets
      return 0
    runRequests arguments document.requests (← settings.runnerDefaults) targets

/-- Does what is asked for with the script of a file. The status of the command comes back. -/
def runScript (arguments : Arguments) (file : String) : Action Nat := do
  let path := Path.ofString file
  if !(← Action.isFile path) then
    Action.complain ("ERROR: File \x27" ++ file ++ "\x27 not found.")
    return 1
  serve arguments file (← Document.load path)

/-- Does what is asked for. The status of the command comes back. -/
def run (arguments : Arguments) : Action Nat := do
  if arguments.help then
    Action.print usage
    return 0
  else if arguments.history then
    History.print
    return 0
  else match arguments.file.filter (!·.isEmpty) with
    | none =>
      Action.print usage
      return 1
    | some file => runScript arguments file

/-- How a call of the command went. -/
structure Invocation where
  /-- The status. -/
  status : Nat
  /-- The fault that ended the call, if one did. -/
  fault : Option Fault
  /-- What was printed. -/
  output : String
  /-- What was printed on the standard error output. -/
  errors : String

/-- The text that events print. -/
def outputOf (events : List Event) : String :=
  String.join (events.map fun
    | .printed text => text
    | _ => "")

/-- The text that events print on the standard error output; logs are printed when asked for. -/
def errorsOf (debug : Bool) (events : List Event) : String :=
  String.join (events.map fun
    | .complained text => text
    | .logged source message => if debug then source ++ ": " ++ message ++ "\n" else ""
    | _ => "")

/-- What is said where the arguments cannot be read. -/
def complaint (error : ArgumentError) : String :=
  match error.message? with
  | some message => "Error: " ++ message ++ "\n"
  | none => usage ++ "\n"

/-- Calls the command in a world. Nothing of an earlier call is known but what it has changed
outside the program. -/
def invoke (arguments : List String) (world : World) : Invocation × World :=
  let world := { world with store := {}, events := [] }
  match Arguments.read arguments with
  | .error error => (⟨2, none, "", complaint error⟩, world)
  | .ok arguments =>
    let (result, world) := (run arguments).run.run world
    let events := world.events.reverse
    let (status, fault) := match result with
      | .ok status => (status, none)
      | .error fault => (1, some fault)
    (⟨status, fault, outputOf events, errorsOf arguments.debug events⟩, world)

end RequestScript.CommandLine
