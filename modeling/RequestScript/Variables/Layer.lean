import RequestScript.Datum
import RequestScript.Path
import RequestScript.Scope
import RequestScript.Value.Reader

/-!
# Layers of variables

A layer is a table of values, kept in memory or in a JSON file. An environment file holds several
named sets of variables and says which of them is active. The store puts four layers on top of
each other.
-/

namespace RequestScript

/-- A table of variables. -/
structure Layer where
  /-- The variables. -/
  entries : Table Value := []
  /-- The file that holds them, if one does. -/
  file : Option Path := none

/-- The table that a JSON text holds; a text of a value that is no object counts as an empty one. -/
def Layer.entriesOfText (room : Nat) (text : String) : Except Value.ReadError (Table Value) := do
  return (← Value.ofJson room text.toList).fields?.getD []

/-- The layer with a variable set. -/
def Layer.set (layer : Layer) (name : String) (value : Value) : Layer :=
  { layer with entries := Table.set layer.entries name value }

/-- Named sets of variables in one file. -/
structure EnvironmentFile where
  /-- The file. -/
  path : Path
  /-- The content of the file. -/
  content : Table Value
  /-- The name of the active set; a file may hold any value for it. -/
  active : Value

namespace EnvironmentFile

/-- The field that holds the name of the active set. -/
def activeKey : String := "$active"

/-- The names of the sets. -/
def namesOf (content : Table Value) : List String :=
  content.filterMap fun (name, value) =>
    if name != activeKey && (Value.fields? value).isSome then some name else none

/-- The environment file with a content. Without a name for the active set it is the first. -/
def ofContent (path : Path) (content : Table Value) : EnvironmentFile :=
  let named := (Table.get? content activeKey).getD .null
  let first := Value.string ((namesOf content).head?.getD "")
  { path, content, active := if named.isGiven then named else first }

/-- The names of the sets. -/
def names (file : EnvironmentFile) : List String :=
  namesOf file.content

/-- Whether a set is the active one. -/
def isActive (file : EnvironmentFile) (name : String) : Bool :=
  match file.active with
  | .string active => active == name
  | _ => false

/-- What the field of a name holds. A list or an object is no name. -/
def lookup (file : EnvironmentFile) (name : Value) : Except Fault (Option Value) :=
  match name with
  | .string name => .ok (Table.get? file.content name)
  | .array _ | .object _ => .error .wrongKind
  | _ => .ok none

/-- The variables of a set; what is no set has none. -/
def variablesOf (file : EnvironmentFile) (name : Value) : Except Fault (Table Value) := do
  return ((← file.lookup name).bind Value.fields?).getD []

/-- The variables of the active set. -/
def activeVariables (file : EnvironmentFile) : Except Fault (Table Value) :=
  file.variablesOf file.active

/-- The file with another active set. -/
def setActive (file : EnvironmentFile) (name : String) : EnvironmentFile :=
  { file with
    active := .string name
    content := Table.set file.content activeKey (.string name) }

/-- A table with a value set at a way of names, each but the last naming a table inside. What is
no table on the way is replaced by one. -/
def setNested (fields : Table Value) (value : Value) : List String → Table Value
  | [] => fields
  | [name] => Table.set fields name value
  | name :: rest =>
    let inner := ((Table.get? fields name).bind Value.fields?).getD []
    Table.set fields name (.object (setNested inner value rest))

/-- The names between the dots of a name. -/
def partsOfName (name : String) : List String :=
  (Text.pieces '.' name.toList).map String.ofList

/-- The file with a variable of the active set set, if there is an active set; a dot in the name
leads into a nested set. -/
def setVariable? (file : EnvironmentFile) (name value : String) :
    Except Fault (Option EnvironmentFile) := do
  if !file.active.isGiven then return none
  match ← file.lookup file.active, file.active with
  | some (.object fields), .string active =>
    let fields := setNested fields (.string value) (partsOfName name)
    return some { file with content := Table.set file.content active (.object fields) }
  | _, _ => return none

end EnvironmentFile

/-- Where variables of the environment scope are kept for later runs. -/
inductive Keeper where
  /-- Nowhere. -/
  | none
  /-- They are noted as events. -/
  | journal
  /-- In the active set of an environment file. -/
  | file (file : EnvironmentFile)

/-- The layers of variables. -/
structure Store where
  session : Layer := {}
  collection : Layer := {}
  environment : Layer := {}
  global : Layer := {}
  /-- The name of the active environment. -/
  active : Option Value := none
  /-- Where environment variables are kept. -/
  keeper : Keeper := .none

namespace Store

/-- The layer of a scope. -/
def layer (store : Store) : Scope → Layer
  | .session => store.session
  | .collection => store.collection
  | .env => store.environment
  | .global => store.global

/-- The store with another layer for a scope. -/
def setLayer (store : Store) (scope : Scope) (layer : Layer) : Store :=
  match scope with
  | .session => { store with session := layer }
  | .collection => { store with collection := layer }
  | .env => { store with environment := layer }
  | .global => { store with global := layer }

/-- The value of a name in the first layer that has one. -/
def value? (store : Store) (name : String) : Option Value :=
  Scope.all.findSome? fun scope => Table.get? (store.layer scope).entries name

theorem layer_setLayer_self (store : Store) (scope : Scope) (layer : Layer) :
    (store.setLayer scope layer).layer scope = layer := by
  cases scope <;> rfl

theorem layer_setLayer_of_ne (store : Store) {scope other : Scope} (layer : Layer)
    (h : other ≠ scope) : (store.setLayer scope layer).layer other = store.layer other := by
  cases scope <;> cases other <;> first | rfl | exact absurd rfl h

end Store

mutual

/-- The leaves of a value, each under the names on the way to it, joined by dots. -/
def leaves (name : String) : Value → List (String × String)
  | .object fields => leavesOfFields (name ++ ".") fields
  | value => [(name, value.text)]
termination_by structural value => value

/-- The leaves of fields whose names continue a name. -/
def leavesOfFields (start : String) : List (String × Value) → List (String × String)
  | [] => []
  | field :: rest => leavesOfField start field ++ leavesOfFields start rest
termination_by structural fields => fields

/-- The leaves of a field whose name continues a name. -/
def leavesOfField (start : String) : String × Value → List (String × String)
  | (name, value) => leaves (start ++ name) value
termination_by structural field => field

end

/-- The texts of nested variables under dotted names. Of leaves with the same name the last one
counts, at the first place. -/
def flatten (nested : Table Value) : Table String :=
  Table.ofPairs (leavesOfFields "" nested)

end RequestScript
