import RequestScript.Yaml.Node

/-!
# Merging maps

A map takes over the fields of the maps that it merges, in front of its own. It does so when it is
read, or when it is merged itself, and then for good, at all places where it stands. A map that is
merged while it takes over fields has what it has by then. From then on, too, a name that stood for
the whole map is a text like any other.
-/

namespace RequestScript.Yaml

/-- A step that changes the nodes of a document. -/
abbrev Changing := StateT Graph (Except Fault)

namespace Graph

/-- Whether a field merges maps into the map that it is in. -/
def isMerging (graph : Graph) (field : Field) : Bool :=
  graph.kind field.1 = .merge

/-- The number of fields that merge maps into theirs. -/
def mergings (graph : Graph) : Nat :=
  graph.nodes.foldl (fun count node =>
    match node.form with
    | .map fields => count + fields.countP graph.isMerging
    | _ => count) 0

/-- The value of the first field that merges maps, and the other fields. -/
def takeMerging? (graph : Graph) : List Field → Option (NodeId × List Field)
  | [] => none
  | field :: rest =>
    if graph.isMerging field then some (field.2, rest)
    else (graph.takeMerging? rest).map fun (source, others) => (source, field :: others)

/-- The graph in which the names of fields are texts, not marks of fields that stand for their
maps. -/
def settleNames (graph : Graph) (fields : List Field) : Graph :=
  fields.foldl (fun graph (name, _) =>
    if graph.kind name = .default then graph.setKind name .text else graph) graph

/-- The nodes that are to be merged: a node, or those in a list. -/
def sources (graph : Graph) (id : NodeId) : List NodeId :=
  match graph.form id with
  | .list items => items
  | _ => [id]

/-- Whether a node is a map. -/
def isMap (graph : Graph) (id : NodeId) : Bool :=
  match graph.form id with
  | .map _ => true
  | _ => false

/-- Lets a map take over the fields of the maps that it merges, behind those that it has taken over
already. Of a list of maps the fields of the last one come first. There is room for so many maps
that are merged one through another; each step uses up a field that merges, so that the fuel
lasts. -/
def takeOver (taken : List Field) (id : NodeId) (room : Nat) : Nat → Changing Unit
  | 0 => throw .tooDeep
  | fuel + 1 => do
    let graph ← get
    match graph.takeMerging? (graph.fields id) with
    | none =>
      let fields := graph.fields id
      set ((graph.settleNames fields).setForm id (.map (taken ++ fields)))
    | some (source, others) =>
      set (graph.setForm id (.map others))
      let found ← (graph.sources source).mapM fun source => do
        if !(← get).isMap source then throw .malformedConfiguration
        if room = 0 then throw .tooDeep
        takeOver [] source (room - 1) fuel
        return (← get).fields source
      takeOver (taken ++ found.reverse.flatten) id room fuel
termination_by structural fuel => fuel

/-- Lets a map take over the fields of the maps that it merges. -/
def merge (id : NodeId) : Changing Unit := do
  takeOver [] id Depth.limit ((← get).mergings + 1)

end Graph

end RequestScript.Yaml
