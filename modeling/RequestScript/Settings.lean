import RequestScript.Settings.EnvironmentText
import RequestScript.Settings.Reference
import RequestScript.Run
import RequestScript.Yaml.Content.Reader

/-!
# Settings

A configuration file holds defaults for runs: where variables are kept, which environment is
active, and how long to wait. Relative paths in it are taken from its own directory. The settings
say with which layers of variables a run starts.
-/

namespace RequestScript

open Yaml (Content Entry Source)

/-- The settings of a run. -/
structure Settings where
  /-- The defaults as the file holds them, a map where they are well formed. -/
  defaults : Content := .emptyMap
  /-- The directory of the configuration file, if there is one. -/
  directory : Option Path := none

namespace Settings

/-- The names of configuration files in the current directory, the preferred one first. -/
def localFiles : List String :=
  [".rext.yaml", ".rext.yml", "rext.yaml", "rext.yml"]

/-- The name of the directory in the home directory that holds what all scripts share. -/
def sharedDirectory : String := ".rext"

/-- The name of the shared configuration file. -/
def sharedFile : String := "config.yaml"

/-- The name of the file that keeps the variables of all scripts. -/
def globalsFile : String := "globals.json"

/-- The name of an environment file that no setting names. -/
def environmentFile : String := "rext.env.json"

/-- A path in the shared directory. -/
def sharedPath (name : String) : Action Path := do
  return (((← getThe World).homePath).child sharedDirectory).child name

/-- The configuration file of a run: the given one, or else the first that there is. -/
def locate (given : Option String) : Action (Option Path) := do
  let candidates ← match given.filter (!·.isEmpty) with
    | some path => pure [Path.ofString path]
    | none => pure (localFiles.map Path.ofString ++ [← sharedPath sharedFile])
  match ← candidates.findM? Action.pathExists with
  | some path => return some (← Action.resolve path)
  | none => return none

/-- The settings that a configuration file in a directory holds. An empty text and empty defaults
count as left out. -/
def ofSource (directory : Path) (source : Source) : Except Fault Settings := do
  let content ← Content.ofSource source
  if content.entry.isGiven && !content.entry.isMap then throw .notAMap
  let defaults := (content.field? "defaults").filter (·.entry.isGiven)
  return { defaults := defaults.getD .emptyMap, directory := some directory }

/-- The settings that a configuration file holds; without one there are no defaults. -/
def load (path : Option Path) : Action Settings := do
  match path with
  | none => return {}
  | some path =>
    if ← Action.pathExists path then
      let source ← Source.ofBytes (← Action.readBytes path)
      return ← ofSource (← Action.resolve path).parent source
    else return {}

/-- The default with a name, `null` if it is left out. -/
def get (settings : Settings) (name : String) : Except Fault Entry :=
  if settings.defaults.entry.isMap then
    .ok ((settings.defaults.field? name).map (·.entry) |>.getD .null)
  else .error .notAMap

/-- The directory that the environment text is looked for in. -/
def baseDirectory (settings : Settings) : Path :=
  settings.directory.getD (Path.ofString "")

/-- What the program logs trouble with environment texts under. -/
def environmentLog : String := "dotenv.main"

/-- The variables of the process, with those of the environment text that the settings name. -/
def processVariables (settings : Settings) : Action (Table String) := do
  let around := (← getThe World).environment
  match ← settings.get "env_file" with
  | .string name =>
    let path := settings.baseDirectory.join (Path.ofString name)
    if !name.isEmpty && (← Action.isFile path) then
      let text ← Action.readText path
      (EnvironmentText.unreadable text).forM fun line => Action.log environmentLog
        ("python-dotenv could not parse statement starting at line " ++ toString line)
      return EnvironmentText.extend around text
    else return around
  | value => if value.isGiven then throw .wrongKind else return around

/-- The home directory that a name in a path stands for: a tilde alone is that of the caller, and
a tilde with a name that of an account. -/
def homeOf? (world : World) (name : String) : Option Path :=
  if name = "~" then some world.homePath else Table.get? world.homes (name.drop 1).toString

/-- A path whose first name starts with a tilde taken from a home directory. -/
def expandHome (world : World) (path : Path) : Except Fault Path :=
  match path.isAbsolute, path.parts with
  | false, part :: rest =>
    if ['~'].isPrefixOf part.toList then
      match homeOf? world part with
      | some home => .ok { home with parts := home.parts ++ rest }
      | none => .error .noHomeDirectory
    else .ok path
  | _, _ => .ok path

/-- The path that a default names, or else a fallback. -/
def pathOf (settings : Settings) (world : World) (value : Entry) (fallback : Path) :
    Except Fault Path :=
  if !value.isGiven then .ok fallback
  else match value with
    | .string text => do
      return settings.baseDirectory.join (← expandHome world (Path.ofString text))
    | _ => .error .wrongKind

/-- The path that the default with a name holds, or else a fallback. -/
def getPath (settings : Settings) (name : String) (fallback : Path) : Action Path := do
  return ← settings.pathOf (← getThe World) (← settings.get name) fallback

/-- The path of the file that keeps the variables of all scripts. -/
def globalsPath (settings : Settings) : Action Path := do
  settings.getPath "globals_file" (← sharedPath globalsFile)

/-- The path of an environment file beside the script, if there is one. -/
def besideScript (script : Option Path) : Action Path := do
  match script with
  | some script => return (← Action.resolve script).parent.child environmentFile
  | none => return Path.ofString environmentFile

/-- The path of the environment file: as the settings say, or else beside the script. -/
def environmentPath (settings : Settings) (script : Option Path) : Action Path := do
  settings.getPath "environment_file" (← besideScript script)

/-- An environment file in which the wanted set is active, if the file has a set of that name. -/
def activate (wanted : Entry) (file : EnvironmentFile) : Action EnvironmentFile := do
  match wanted with
  | .string name =>
    if !name.isEmpty && file.names.contains name && !file.isActive name then
      let file := file.setActive name
      file.save
      return file
    else return file
  | _ => return file

/-- The name of the set that is to be active: the given one, or else that of the settings. -/
def wantedSet (settings : Settings) (environment : Option String) : Except Fault Entry :=
  match environment.filter (!·.isEmpty) with
  | some name => .ok (.string name)
  | none => settings.get "environment"

/-- Loads the active set of an environment file with references to variables replaced. -/
def loadActive (values : Table String) (file : EnvironmentFile) : Action Unit := do
  if file.active.isGiven then
    let entries ← Reference.expandTable values (← file.activeVariables)
    Store.loadEnvironment entries (some file.active)

/-- Loads the variables beside a script, if there is one. -/
def loadBeside (script : Option Path) : Action Unit := do
  match script with
  | some script => let _ ← Store.loadCollection script
  | none => return

/-- Opens the file of the shared layer and the environment file, in which the wanted set is made
active. -/
def openFiles (settings : Settings) (script : Option Path) (environment : Option String) :
    Action (Layer × EnvironmentFile) := do
  let globals ← settings.globalsPath
  let file ← EnvironmentFile.load (← settings.environmentPath script)
  let global ← Layer.load globals
  let file ← activate (← settings.wantedSet environment) file
  return (global, file)

/-- Gives a run its layers of variables: the shared one, that of the active environment with
references to variables replaced, and that beside the script. What is captured for the
environment goes to the environment file. -/
def equip (settings : Settings) (values : Table String) (script : Option Path)
    (environment : Option String) : Action Unit := do
  let (global, file) ← settings.openFiles script environment
  Store.update fun _ => { global, keeper := .file file }
  loadActive values file
  loadBeside script

/-- The integer that bytes denote as an ASCII numeral. -/
def asciiInt? (data : List UInt8) : Option Int :=
  if data.all (· < 0x80) then Text.readInt? (data.map fun byte => Char.ofNat byte.toNat) else none

/-- The integer that a default denotes: numerals count, truth values count as one and zero, and
fractions are cut off. What denotes none gives way to a fallback. -/
def integerOf (fallback : Option Int) : Entry → Except Fault (Option Int)
  | .int n => .ok (some n)
  | .bool b => .ok (some (if b then 1 else 0))
  | .double (.infinite _) => .error .numberTooLarge
  | .double x => .ok (x.truncate?.orElse fun _ => fallback)
  | .string s => .ok ((Text.readInt? s.toList).orElse fun _ => fallback)
  | .bytes data => .ok ((asciiInt? data).orElse fun _ => fallback)
  | _ => .ok fallback

/-- What a runner falls back on under the settings. -/
def runnerDefaults (settings : Settings) : Except Fault Defaults := do
  let standard : Defaults := {}
  let delay ← integerOf (some standard.retryDelay) (← settings.get "retry_delay")
  let timeout ← integerOf none (← settings.get "timeout")
  return { retryDelay := delay.getD standard.retryDelay, timeout }

end Settings

end RequestScript
