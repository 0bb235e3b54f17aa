import RequestScript.CommandLine
import Std.Time.DateTime.Timestamp

/-!
# The program

The command in the world that it is called in: the files under the current directory and under
the directories of its arguments, what all scripts share, the process environment, the clock and
random draws. There is no network here, so every call fails to connect.
-/

namespace RequestScript.Program

/-- The path of a place in the file system. -/
def pathOf (place : List String) : String :=
  "/" ++ "/".intercalate place

/-- A tree with the directories on the way to a place. -/
def withDirectories (tree : FileTree) (place : List String) : FileTree :=
  (tree.makeDirectories [] place).1

/-- A tree with a file of the file system, if there is such a file. -/
def withFile (tree : FileTree) (place : List String) : IO FileTree := do
  try
    let content ← IO.FS.readBinFile (pathOf place)
    return (withDirectories tree place.dropLast).put place (.file content)
  catch _ => return tree

/-- A tree with everything under a directory of the file system, if there is such a directory. -/
def withDirectory (tree : FileTree) (place : List String) : IO FileTree := do
  try
    let paths ← ((← IO.currentDir) / pathOf place).walkDir
    paths.foldlM (fun tree path => do
      let names := (Path.ofString path.toString).parts
      if ← path.isDir then return withDirectories tree names else withFile tree names)
      (withDirectories tree place)
  catch _ => return tree

/-- The directories that a call of the command may look into. -/
def directories (current home : List String) (arguments : List String) : List (List String) :=
  let named := arguments.map fun argument =>
    Path.normalize ((Path.ofString argument).locate current).dropLast
  let outside := named.filter fun place => !current.isPrefixOf place && !place.isPrefixOf home
  current :: (home ++ [Settings.sharedDirectory]) :: outside.eraseDups

/-- The variables that a process block of `NAME=value` texts sets. -/
def variablesOf (block : String) : Table String :=
  Table.ofPairs ((Text.pieces '\x00' block.toList).filterMap fun entry =>
    (Text.cut? '=' entry).map fun (name, value) => (String.ofList name, String.ofList value))

/-- The variables of the process, as far as they can be read. -/
def processVariables : IO (Table String) := do
  try return variablesOf (← IO.FS.readFile "/proc/self/environ")
  catch _ => return []

/-- The home directories in a list of accounts, whose lines have colons between their fields. -/
def homesOf (accounts : String) : Table Path :=
  Table.ofPairs ((Text.pieces '\n' accounts.toList).filterMap fun line =>
    match Text.pieces ':' line with
    | [name, _, _, _, _, home, _] => some (String.ofList name, Path.ofString (String.ofList home))
    | _ => none)

/-- The home directories of all accounts, as far as they can be read. -/
def homes : IO (Table Path) := do
  try return homesOf (← IO.FS.readFile "/etc/passwd")
  catch _ => return []

/-- Random draws from a seed. -/
def draws (seed : UInt64) (index : Nat) : Int :=
  let word (part : Nat) : Nat := (mixHash (mixHash seed index.toUInt64) part.toUInt64).toNat
  word 0 * Nat.pow 2 64 + word 1

/-- A seed for random draws. -/
def seed : IO UInt64 := do
  return (← IO.getRandomBytes 8).foldl (fun seed byte => 256 * seed + byte.toUInt64) 0

/-- The world that a call of the command starts in. -/
def world (arguments : List String) : IO World := do
  let current := (Path.ofString (← IO.currentDir).toString).parts
  let environment ← processVariables
  let home := (Path.ofString ((Table.get? environment "HOME").getD "/")).parts
  let start := withDirectories (withDirectories { nodes := [] } current) home
  let tree ← (directories current home arguments).foldlM withDirectory start
  let seed ← seed
  return {
    files := ← withFile tree (home ++ [History.fileName])
    directory := current
    home
    homes := ← homes
    environment
    clock := (← Std.Time.Timestamp.now).toMillisecondsSinceUnixEpoch.val
    dice := { source := draws seed }
    replies := fun _ => .failure .connection "there is no network" }

/-- Does to the file system what an event did to the tree. -/
def carryOut : Event → IO Unit
  | .wrote place content => do
    IO.FS.createDirAll (pathOf place.dropLast)
    IO.FS.writeBinFile (pathOf place) content
  | _ => return

end RequestScript.Program

open RequestScript in
/-- Calls the command. -/
def main (arguments : List String) : IO UInt32 := do
  let (call, world) := CommandLine.invoke arguments (← Program.world arguments)
  world.events.reverse.forM Program.carryOut
  IO.print call.output
  IO.eprint call.errors
  if call.fault.isSome then IO.eprintln "ERROR: The run was broken off."
  return call.status.toUInt32
