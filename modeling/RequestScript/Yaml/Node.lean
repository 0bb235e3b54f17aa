import RequestScript.Depth
import RequestScript.Fault
import RequestScript.Yaml.Kind

/-!
# Nodes of a document

The nodes of a document are scalars, lists and maps. They are numbered, and a list or a map has the
numbers of the nodes in it. So a reference to an anchor is the number of the node that has the
anchor: a node may stand at several places, and inside itself.
-/

namespace RequestScript.Yaml

/-- The number of a node in its document. -/
abbrev NodeId := Nat

/-- A field of a map: the nodes of its name and of its value. -/
abbrev Field := NodeId × NodeId

/-- What a node is made of. -/
inductive Form where
  | scalar (text : String)
  | list (items : List NodeId)
  | map (fields : List Field)

/-- A node. What it is read as is not bound to what it is made of. -/
structure Node where
  kind : Kind
  form : Form

/-- The node that is left out. -/
def Node.empty : Node :=
  ⟨.null, .scalar ""⟩

/-- The nodes of a document by their numbers. -/
structure Graph where
  nodes : Array Node := #[]

namespace Graph

/-- The node with a number. -/
def node (graph : Graph) (id : NodeId) : Node :=
  graph.nodes.getD id .empty

/-- What a node is read as. -/
def kind (graph : Graph) (id : NodeId) : Kind :=
  (graph.node id).kind

/-- What a node is made of. -/
def form (graph : Graph) (id : NodeId) : Form :=
  (graph.node id).form

/-- The number of nodes, which is also the number of the next one. -/
def size (graph : Graph) : Nat :=
  graph.nodes.size

/-- The graph with one more node. -/
def add (graph : Graph) (node : Node) : Graph :=
  ⟨graph.nodes.push node⟩

/-- The graph with another node in the place of one. -/
def replace (graph : Graph) (id : NodeId) (node : Node) : Graph :=
  ⟨graph.nodes.setIfInBounds id node⟩

/-- The graph in which a node is made of something else. -/
def setForm (graph : Graph) (id : NodeId) (form : Form) : Graph :=
  graph.replace id { graph.node id with form }

/-- The graph in which a node is read as something else. -/
def setKind (graph : Graph) (id : NodeId) (kind : Kind) : Graph :=
  graph.replace id { graph.node id with kind }

/-- The fields of a map. -/
def fields (graph : Graph) (id : NodeId) : List Field :=
  match graph.form id with
  | .map fields => fields
  | _ => []

/-- The text of a node that is read as a scalar: of a map, that of its field for the whole. There is
room for so many maps inside each other. -/
def scalarTextWithin (graph : Graph) (id : NodeId) : Nat → Except Fault String
  | 0 => .error .tooDeep
  | room + 1 =>
    match graph.form id with
    | .scalar text => .ok text
    | .list _ => .error .malformedConfiguration
    | .map fields =>
      match fields.find? fun field => graph.kind field.1 = .default with
      | some (_, value) => graph.scalarTextWithin value room
      | none => .error .malformedConfiguration

/-- The text of a node that is read as a scalar. -/
def scalarText (graph : Graph) (id : NodeId) : Except Fault String :=
  graph.scalarTextWithin id Depth.limit

end Graph

end RequestScript.Yaml
