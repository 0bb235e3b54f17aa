import RequestScript.Exchange
import RequestScript.FileTree
import RequestScript.Text.ControlSequence
import RequestScript.Text.Lines
import RequestScript.Variables.Placeholder

/-!
# The world of a run

Everything outside the program that a run reads or changes: files, the process environment, the
clocks, the random draws and the network. What a run does is noted as a list of events. An action
may be stopped by a fault; what it did before stays done.
-/

namespace RequestScript

/-- Something that a run does. -/
inductive Event where
  /-- A call goes on the wire. -/
  | sent (call : Call)
  /-- A wait of so many seconds. -/
  | slept (seconds : Double)
  /-- A file is written. -/
  | wrote (place : List String) (content : ByteArray)
  /-- A variable of a scope is set to a text. -/
  | set (scope : Scope) (name text : String)
  /-- A variable of the environment scope is kept. -/
  | kept (name value : String)
  /-- A note for whoever looks for an error. -/
  | logged (source message : String)
  /-- A text on the standard output. -/
  | printed (text : String)
  /-- A text on the standard error output. -/
  | complained (text : String)

/-- The world of a run. -/
structure World where
  files : FileTree
  /-- The directory that relative paths are taken from. -/
  directory : List String := []
  /-- The home directory. -/
  home : List String := []
  /-- The home directories of all accounts, by their names. -/
  homes : Table Path := []
  /-- The variables of the process environment. -/
  environment : Table String := []
  /-- The time, in milliseconds since the start of 1970. -/
  clock : Int := 0
  /-- The random draws. -/
  dice : Dice
  /-- What comes back for each call. -/
  replies : Nat → Reply
  /-- The number of calls made. -/
  calls : Nat := 0
  /-- The time that has passed, in milliseconds. -/
  elapsed : Int := 0
  /-- The variables. -/
  store : Store := {}
  /-- The number of levels of nested values that there is room for. -/
  room : Nat := Depth.limit
  /-- What has been done, the last event first. -/
  events : List Event := []

/-- The path of the home directory. -/
def World.homePath (world : World) : Path :=
  ⟨"/", world.home⟩

/-- A computation in a world. -/
abbrev Action (α : Type) := ExceptT Fault (StateM World) α

namespace Action

/-- Notes an event. -/
def note (event : Event) : Action Unit :=
  modify fun world => { world with events := event :: world.events }

/-- Notes a message of a part of the program. -/
def log (source message : String) : Action Unit :=
  note (.logged source message)

/-- Prints a line, without control sequences. -/
def print (line : String) : Action Unit :=
  note (.printed (Text.withoutControls (line ++ "\n")))

/-- Prints a line on the standard error output, without control sequences. -/
def complain (line : String) : Action Unit :=
  note (.complained (Text.withoutControls (line ++ "\n")))

/-- A result, or a fault. -/
def ofExcept {α : Type} : Except Fault α → Action α
  | .ok result => return result
  | .error fault => throw fault

/-- What there is, or else a fault. -/
def ofOption {α : Type} (fault : Fault) : Option α → Action α
  | some result => return result
  | none => throw fault

/-- Runs a computation with the draws of the world. -/
def ofChance {α : Type} (chance : Chance α) : Action α := do
  let world ← getThe World
  let (result, dice) := chance.run.run world.dice
  set { world with dice }
  ofExcept result

/-- Runs an action while something that takes so many levels waits for it. -/
def deeper {α : Type} (levels : Nat) (action : Action α) : Action α := do
  let room := (← getThe World).room
  if room < levels then throw .tooDeep
  modify fun world => { world with room := room - levels }
  try action finally modify fun world => { world with room }

/-- Checks that there is room for so many levels. -/
def needRoom (levels : Nat) : Action Unit := do
  if (← getThe World).room < levels then throw .tooDeep

/-- A text with every placeholder replaced. -/
def interpolate (text : String) : Action String := do
  let world ← getThe World
  ofChance (world.store.interpolateWithin world.room world.clock text)

/-- The number of bytes that a path may have. -/
def pathLimit : Nat := 4095

/-- The absolute names of a path. -/
def locate (path : Path) : Action (List String) := do
  if path.text.contains '\x00' then throw .nullInPath
  if pathLimit < path.text.utf8ByteSize then throw .nameTooLong
  return path.locate (← getThe World).directory

/-- The path without double dots, taken from the current directory. -/
def resolve (path : Path) : Action Path := do
  if path.text.contains '\x00' then throw .nullInPath
  return path.resolve (← getThe World).directory

/-- What stands at a path. -/
def find (path : Path) : Action FileNode := do
  let names ← locate path
  return ← (← getThe World).files.find names

/-- What stands at a path, if anything does. That a name is too long is a fault all the same. -/
def find? (path : Path) : Action (Option FileNode) :=
  tryCatch (some <$> find path) fun fault =>
    match fault with
    | .nameTooLong => throw .nameTooLong
    | _ => return none

/-- Whether something stands at a path. -/
def pathExists (path : Path) : Action Bool := do
  return (← find? path).isSome

/-- Whether a file stands at a path. -/
def isFile (path : Path) : Action Bool := do
  match ← find? path with
  | some (.file _) => return true
  | _ => return false

/-- Whether a directory stands at a path. -/
def isDirectory (path : Path) : Action Bool := do
  return (← find? path) == some .directory

/-- The content of a file. -/
def readBytes (path : Path) : Action ByteArray := do
  let names ← locate path
  return ← (← getThe World).files.read names

/-- The text that the bytes of a file spell, with every line ending as a line feed. -/
def textOfBytes (bytes : ByteArray) : Except Fault String :=
  match String.fromUTF8? bytes with
  | some text => .ok (String.ofList (Text.universalNewlines text.toList))
  | none => .error .notUtf8

/-- The text of a file. -/
def readText (path : Path) : Action String := do
  return ← textOfBytes (← readBytes path)

/-- The text of a file, if there is a file and it can be read. -/
def readText? (path : Path) : Action (Option String) :=
  tryCatch (some <$> readText path) fun _ => return none

/-- Writes a file. -/
def writeText (path : Path) (text : String) : Action Unit := do
  let place ← locate path
  let world ← getThe World
  let files ← world.files.write place text.toUTF8
  set { world with files }
  note (.wrote (Path.normalize place) text.toUTF8)

/-- That the file system refuses something at a path. -/
structure Refusal where
  path : Path
  fault : Fault
  /-- What it says. -/
  reason : String

/-- What is said about a refusal. -/
def Refusal.text (refusal : Refusal) : String :=
  refusal.reason ++ ": " ++ String.ofList (Text.quoted refusal.path.text.toList)

/-- Runs an action on a path, which the file system may refuse. -/
def orRefused {α : Type} (path : Path) (action : Action α) : Action (Except Refusal α) :=
  tryCatch (.ok <$> action) fun fault =>
    match fault.refusal? with
    | some reason => return .error ⟨path, fault, reason⟩
    | none => throw fault

/-- Makes a directory. -/
def makeDirectory (path : Path) : Action Unit := do
  let names ← locate path
  let world ← getThe World
  set { world with files := ← world.files.makeDirectory names }

/-- Makes a directory, unless there is one. -/
def makeMissing (path : Path) : Action (Except Refusal Unit) := do
  match ← orRefused path (makeDirectory path) with
  | .error refusal =>
    if refusal.fault != .alreadyThere then return .error refusal
    if ← isDirectory path then return .ok () else return .error refusal
  | made => return made

/-- Makes a directory, unless there is one. Where the directory that it is to be in is missing, that
one is made first, and so on for so many steps. -/
def makeDirectories (path : Path) : Nat → Action (Except Refusal Unit)
  | 0 => makeMissing path
  | steps + 1 => do
    match ← makeMissing path with
    | .error refusal =>
      if refusal.fault != .noSuchFile then return .error refusal
      match ← makeDirectories path.parent steps with
      | .ok () => makeMissing path
      | refused => return refused
    | made => return made

/-- The whole milliseconds that a wait of so many seconds takes. -/
def millisecondsOf (seconds : Double) : Except Fault Int :=
  match (seconds.mul (.ofQuotient false 1000 1)).round? with
  | some milliseconds => .ok milliseconds
  | none => .error .numberTooLarge

/-- Waits for a number of milliseconds. A wait that no clock can measure is noted and then breaks
off. -/
def sleep (milliseconds : Int) : Action Unit := do
  let seconds ← ofOption .numberTooLarge (Double.thousandth? milliseconds)
  note (.slept seconds)
  let passed ← millisecondsOf seconds
  modify fun world => { world with elapsed := world.elapsed + passed }

/-- Makes a call and waits for the reply. -/
def send (call : Call) : Action Reply := do
  note (.sent call)
  let world ← getThe World
  let reply := world.replies world.calls
  let passed : Int := match reply with
    | .response _ _ _ _ elapsed => elapsed
    | .failure .. => 0
  set { world with calls := world.calls + 1, elapsed := world.elapsed + passed }
  return reply

/-- What the program logs its calls under. -/
def exchangeLog : String := "rext.executor"

/-- Makes a call and looks at what comes back. -/
def exchange (method url : String) (headers : Option Headers) (payload : Payload)
    (timeout : Option Seconds) : Action Outcome := do
  let call := Call.make method url headers payload timeout
  log exchangeLog (call.method ++ " " ++ url)
  let reply ← send call
  let outcome ← Outcome.ofReply (← getThe World).room timeout reply
  match outcome.error with
  | some error =>
    if !error.isEmpty then
      log exchangeLog (method ++ " " ++ url ++ " failed: " ++ error)
  | none => pure ()
  return outcome

end Action

end RequestScript
