import RequestScript.Text.Integer
import RequestScript.Value
import RequestScript.Yaml.Node

/-!
# Content of a configuration

A configuration text denotes values much like those of JSON. But the names in a map need not be
strings, a value may stand at several places and inside itself, and there are values that JSON has
no form for. So content is the entries for the nodes of a document, seen from one of them.
-/

namespace RequestScript.Yaml

/-- What a node is read as. Lists and maps have the numbers of the nodes in them. -/
inductive Entry where
  | null
  | bool (b : Bool)
  | int (n : Int)
  | double (x : Double)
  /-- Not a number. The word for it always denotes the same value; written otherwise it differs from
  every other value. -/
  | nan (isWord : Bool)
  | string (s : String)
  | bytes (data : List UInt8)
  | time
  | list (items : List NodeId)
  /-- A list of pairs. -/
  | pairs (members : List Field)
  | map (fields : List Field)
  | set (names : List NodeId)

namespace Entry

/-- Whether an entry counts as given: `null`, false, zeros and empty values do not. -/
def isGiven : Entry → Bool
  | .null => false
  | .bool b => b
  | .int n => n != 0
  | .double x => x.rank != 0
  | .string s => !s.isEmpty
  | .bytes data => !data.isEmpty
  | .list items => !items.isEmpty
  | .pairs members => !members.isEmpty
  | .map fields => !fields.isEmpty
  | .set names => !names.isEmpty
  | .nan _ | .time => true

/-- Whether an entry may be the name of a field. -/
def isName : Entry → Bool
  | .list _ | .pairs _ | .map _ | .set _ => false
  | _ => true

/-- Whether an entry is a map. -/
def isMap : Entry → Bool
  | .map _ => true
  | _ => false

/-- The integer that an entry equals, if it equals one. Truth values equal one and zero. -/
def asInt? : Entry → Option Int
  | .bool b => some (if b then 1 else 0)
  | .int n => some n
  | .double x => x.toInt?
  | _ => none

/-- Whether two names of different nodes are the same. Numbers are compared by their value. -/
def isSameName (a b : Entry) : Bool :=
  match a.asInt?, b.asInt?, a, b with
  | some n, some m, _, _ => n = m
  | none, none, .null, .null => true
  | none, none, .double x, .double y => x = y
  | none, none, .nan true, .nan true => true
  | none, none, .string s, .string t => s = t
  | none, none, .bytes a, .bytes b => a = b
  | _, _, _, _ => false

/-- The name of a field as JSON writes it. -/
def nameText : Entry → Except Fault String
  | .null => .ok "null"
  | .bool b => .ok (if b then "true" else "false")
  | .int n => Text.integerText n
  | .double (.infinite negative) => .ok (if negative then "-Infinity" else "Infinity")
  | .double x => .ok x.text
  | .nan _ => .ok "NaN"
  | .string s => .ok s
  | .bytes _ | .time | .list _ | .pairs _ | .map _ | .set _ => .error .wrongKind

end Entry

/-- The entries for the nodes of a document, seen from one of its nodes. A node that is no part of a
value has none. -/
structure Content where
  entries : Array (Option Entry)
  root : NodeId

namespace Content

/-- The content of an empty map. -/
def emptyMap : Content :=
  ⟨#[some (.map [])], 0⟩

/-- The entry for a node. -/
def entryOf (content : Content) (id : NodeId) : Entry :=
  (content.entries.getD id none).getD .null

/-- The entry that is seen. -/
def entry (content : Content) : Entry :=
  content.entryOf content.root

/-- Whether two nodes are the same name. -/
def isSameName (content : Content) (a b : NodeId) : Bool :=
  a == b || (content.entryOf a).isSameName (content.entryOf b)

/-- Gives a name in fields a value; a new name comes last. Of equal names the first one stays. -/
def setField (content : Content) (field : Field) : List Field → List Field
  | [] => [field]
  | first :: rest =>
    if content.isSameName first.1 field.1 then (first.1, field.2) :: rest
    else first :: content.setField field rest

/-- The content of the field with a string name, where content is a map that has it. -/
def field? (content : Content) (name : String) : Option Content :=
  match content.entry with
  | .map fields =>
    (fields.find? fun field => (content.entryOf field.1).isSameName (.string name)).map
      fun field => { content with root := field.2 }
  | _ => none

/-- The JSON value of a node inside others. Two names that differ may have the same text there.
There is room for so many levels of lists and maps. -/
def valueOf (content : Content) (around : List NodeId) (id : NodeId) (room : Nat) :
    Except Fault Value :=
  match room with
  | 0 =>
    match content.entryOf id with
    | .list _ | .pairs _ | .map _ => .error .tooDeep
    | entry => leafValue entry
  | room + 1 => do
    let inner := id :: around
    let enter : Except Fault Unit :=
      if around.contains id then throw .endless else return ()
    match content.entryOf id with
    | .list items =>
      enter
      return .array (← items.mapM fun item => content.valueOf inner item room)
    | .pairs members =>
      enter
      return .array (← members.mapM fun (first, second) => do
        if room = 0 then throw .tooDeep
        return .array [← content.valueOf inner first (room - 1),
          ← content.valueOf inner second (room - 1)])
    | .map fields =>
      enter
      return .object (← fields.mapM fun (name, value) => do
        return (← (content.entryOf name).nameText, ← content.valueOf inner value room))
    | entry => leafValue entry
termination_by room
where
  /-- The JSON value of an entry that holds no others. -/
  leafValue : Entry → Except Fault Value
    | .null => .ok .null
    | .bool b => .ok (.bool b)
    | .int n => if Text.isTooLong n then .error .numeralTooLong else .ok (.int n)
    | .double x => .ok (.double x)
    | .nan _ => .ok (.double .nan)
    | .string s => .ok (.string s)
    | .bytes _ | .time | .set _ | .list _ | .pairs _ | .map _ => .error .wrongKind

/-- The JSON value of content. -/
def toValue (content : Content) : Except Fault Value :=
  content.valueOf [] content.root Depth.limit

end Content

end RequestScript.Yaml
