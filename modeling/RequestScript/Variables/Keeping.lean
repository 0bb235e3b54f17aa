import RequestScript.Text.Utf8
import RequestScript.World

/-!
# Keeping variables

A layer with a file is written to it after each change, and so is an environment file. A file
that is missing or holds no object is an empty table, and a write that the file system refuses is
left out.
-/

namespace RequestScript

/-- What the program logs trouble with files of variables under. -/
def storageLog : String := "rext.storage"

/-- The table that bytes hold, or what is wrong with them. -/
def entriesOfBytes (bytes : ByteArray) : Action (Except String (Table Value)) := do
  match Text.misspelled? 0 0 bytes.toList with
  | some part => return .error part.message
  | none =>
    let text ← Action.textOfBytes bytes
    match Layer.entriesOfText (← getThe World).room text with
    | .ok entries => return .ok entries
    | .error .tooDeep => throw .tooDeep
    | .error error => return .error (error.message text.toList)

/-- The table that the file at a path holds. -/
def readEntries (path : Path) : Action (Table Value) := do
  if !(← Action.pathExists path) then return []
  let found ← match ← Action.orRefused path (Action.readBytes path) with
    | .ok bytes => entriesOfBytes bytes
    | .error refusal => pure (.error refusal.text)
  match found with
  | .ok entries => return entries
  | .error reason =>
    Action.log storageLog ("Ignoring unreadable " ++ path.text ++ ": " ++ reason)
    return []

/-- Writes a table to a file, whose directory is made if it is missing. -/
def writeEntries (path : Path) (entries : Table Value) : Action Unit := do
  let directory := path.parent
  let written ← match ← Action.makeDirectories directory directory.parts.length with
    | .ok () =>
      Action.needRoom (Value.object entries).depth
      Action.orRefused path (Action.writeText path (Value.object entries).pretty)
    | refused => pure refused
  match written with
  | .ok () => return
  | .error refusal =>
    Action.log storageLog ("Could not write " ++ path.text ++ ": " ++ refusal.text)

namespace Layer

/-- The layer that a file holds. -/
def load (path : Path) : Action Layer := do
  return { entries := ← readEntries path, file := some path }

/-- Writes a layer to its file, if it has one. -/
def save (layer : Layer) : Action Unit :=
  match layer.file with
  | some path => writeEntries path layer.entries
  | none => return

end Layer

namespace EnvironmentFile

/-- The environment file at a path. -/
def load (path : Path) : Action EnvironmentFile := do
  return ofContent path (← readEntries path)

/-- Writes an environment file. -/
def save (file : EnvironmentFile) : Action Unit :=
  writeEntries file.path file.content

end EnvironmentFile

namespace Store

/-- Changes the store of the world. -/
def update (f : Store → Store) : Action Unit :=
  modify fun world => { world with store := f world.store }

/-- Puts a layer in the place of the one of a scope, and then writes it. -/
def replaceLayer (scope : Scope) (layer : Layer) : Action Unit := do
  update (·.setLayer scope layer)
  layer.save

/-- Sets the text of a value as a variable of a scope. -/
def set (scope : Scope) (name : String) (value : Datum) : Action Unit := do
  Action.note (.set scope name value.text)
  replaceLayer scope (((← getThe World).store.layer scope).set name (.string value.text))

/-- Sets a variable of the scope that a word names. -/
def setNamed (scope name : String) (value : Datum) : Action Unit :=
  match Scope.ofWord? scope with
  | some scope => set scope name value
  | none => throw (.unknownScope scope)

/-- Keeps the text of a value for later runs, where there is a place to keep it. -/
def keep (name : String) (value : Datum) : Action Unit := do
  match (← getThe World).store.keeper with
  | .none => return
  | .journal => Action.note (.kept name value.text)
  | .file file =>
    match ← file.setVariable? name value.text with
    | some file =>
      update fun store => { store with keeper := .file file }
      file.save
    | none => return

/-- Replaces the environment layer by nested variables, under dotted names. -/
def loadEnvironment (nested : Table Value) (name : Option Value) : Action Unit := do
  let entries := (flatten nested).mapValues Value.string
  replaceLayer .env { (← getThe World).store.environment with entries }
  update fun store => { store with active := name }

/-- Empties the environment layer. -/
def clearEnvironment : Action Unit := do
  replaceLayer .env { (← getThe World).store.environment with entries := [] }
  update fun store => { store with active := none }

/-- Empties the session layer. -/
def clearSession : Action Unit := do
  replaceLayer .session { (← getThe World).store.session with entries := [] }

/-- The name of the file that keeps the variables of a collection. -/
def collectionFile : String := ".rext.collection.json"

/-- What the program logs changes of variables under. -/
def variablesLog : String := "rext.variables"

/-- Takes the collection layer from the file beside a request script, or in a directory. -/
def loadCollection (path : Path) : Action Path := do
  let directory := if ← Action.isDirectory path then path else path.parent
  let side := directory.child collectionFile
  let layer ← Layer.load side
  update fun store => { store with collection := layer }
  Action.log variablesLog ("Collection variables loaded from " ++ side.text)
  return side

end Store

end RequestScript
