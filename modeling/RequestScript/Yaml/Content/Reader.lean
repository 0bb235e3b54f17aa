import RequestScript.Yaml.Content
import RequestScript.Yaml.Document
import RequestScript.Yaml.Node.Merge
import RequestScript.Yaml.Scalar.Binary
import RequestScript.Yaml.Scalar.Number

/-!
# Reading the content of a document

Each node is read once, wherever it stands. Lists and maps are opened where they are met and filled
later, in the order in which they have been opened: what is nearer to the root is read first, and
of several faults it is the first one met that counts. Maps are merged as they are filled.
-/

namespace RequestScript.Yaml

/-- The truth value that a word denotes, in any case of its letters. -/
def readTruth (text : String) : Except Fault Bool :=
  let word := String.ofList (text.toList.map Char.toLower)
  if ["yes", "true", "on"].contains word then .ok true
  else if ["no", "false", "off"].contains word then .ok false
  else .error .notATruthValue

/-- The number with a point that a numeral denotes. -/
def readFraction (cs : List Char) : Except Fault Entry := do
  match ← readDouble cs with
  | .nan => return .nan (isNanWord cs)
  | x => return .double x

/-- Whether a text is a time. -/
def readTime (cs : List Char) : Except Fault Entry :=
  match Time.read? (Text.dropFinalLineFeed cs) with
  | some written => if written.isPossible then .ok .time else .error .impossibleTime
  | none => .error .notATime

/-- What a scalar of a kind is read as. -/
def Kind.read (kind : Kind) (text : String) : Except Fault Entry :=
  match kind with
  | .null => .ok .null
  | .bool => (readTruth text).map .bool
  | .int => (readInteger text.toList).map .int
  | .float => readFraction text.toList
  | .text => .ok (.string text)
  | .time => readTime text.toList
  | .binary =>
    match readBinary? text.toList with
    | some data => .ok (.bytes data)
    | none => .error .malformedConfiguration
  | .list | .map | .pairs | .set | .merge | .default | .unknown => .error .malformedConfiguration

/-- What a scalar is read as, or a map that is read as one. A map that stands for a time is none. -/
def Graph.readScalar (graph : Graph) (id : NodeId) : Except Fault Entry := do
  let kind := graph.kind id
  if [.merge, .default, .unknown].contains kind then throw .malformedConfiguration
  let text ← graph.scalarText id
  if kind = .time && graph.isMap id then throw .wrongKind
  kind.read text

/-- How far the nodes of a document have been read. -/
structure Filling where
  graph : Graph
  /-- The entries for the nodes that have been read or opened. -/
  entries : Array (Option Entry)
  /-- The lists and maps that have been opened but not filled, the last one first. -/
  opened : List NodeId := []

/-- A step of reading. -/
abbrev Filler := StateT Filling (Except Fault)

namespace Filler

/-- Notes what a node is read as. -/
def note (id : NodeId) (entry : Entry) : Filler Unit :=
  modify fun filling => { filling with entries := filling.entries.setIfInBounds id (some entry) }

/-- Reads a scalar or opens a list or map, unless that has been done. -/
def visit (id : NodeId) : Filler Unit := do
  let { graph, entries, opened } ← get
  if (entries.getD id none).isSome then return
  if (graph.kind id).isCollection then
    let entries := entries.setIfInBounds id (some (.list []))
    set { graph, entries, opened := id :: opened : Filling }
  else note id (← graph.readScalar id)

/-- The items of a list. -/
def items (id : NodeId) : Filler (List NodeId) := do
  match (← get).graph.form id with
  | .list items => return items
  | _ => throw .malformedConfiguration

/-- Visits a map of one field, which is a pair. -/
def visitPair (id : NodeId) : Filler Field := do
  match (← get).graph.form id with
  | .map [(name, value)] =>
    visit name
    visit value
    return (name, value)
  | _ => throw .malformedConfiguration

/-- Visits a field, whose name has to be one, and puts it to those before it. -/
def visitField (before : List Field) (field : Field) : Filler (List Field) := do
  visit field.1
  let content : Content := ⟨(← get).entries, field.1⟩
  if !content.entry.isName then throw .malformedConfiguration
  visit field.2
  return content.setField field before

/-- Merges what a map merges and visits its fields. -/
def visitFields (id : NodeId) : Filler (List Field) := do
  let { graph, entries, opened } ← get
  if !graph.isMap id then throw .malformedConfiguration
  let (_, graph) ← (Graph.merge id).run graph
  set { graph, entries, opened : Filling }
  (graph.fields id).foldlM visitField []

/-- Fills a list or map. -/
def fill (id : NodeId) : Filler Unit := do
  match (← get).graph.kind id with
  | .list =>
    let items ← items id
    items.forM visit
    note id (.list items)
  | .pairs => note id (.pairs (← (← items id).mapM visitPair))
  | .set => note id (.set ((← visitFields id).map (·.1)))
  | _ => note id (.map (← visitFields id))

/-- Fills what has been opened and then what is opened by that. Each round but the last one opens a
node, so that the fuel lasts. -/
def fillAll : Nat → Filler Unit
  | 0 => return
  | fuel + 1 => do
    let { graph, entries, opened } ← get
    if opened.isEmpty then return
    set { graph, entries : Filling }
    opened.reverse.forM fill
    fillAll fuel

end Filler

/-- The content of a source. -/
def Content.ofSource (source : Source) : Except Fault Content := do
  let (root, graph) ← Graph.ofSource source
  let reading : Filler Unit := do
    Filler.visit root
    Filler.fillAll (graph.size + 1)
  let start : Filling := { graph, entries := Array.replicate graph.size none }
  return ⟨(← reading.run start).2.entries, root⟩

end RequestScript.Yaml
