import RequestScript.Yaml.Node
import RequestScript.Yaml.Token.Lexer

/-!
# Documents

A text holds one document: a node, between marks that say where it starts and ends and after
directives. Anchors are names of the document, each given once, before it is referred to. Nodes
are not nested more than some hundred levels deep.
-/

namespace RequestScript.Yaml

/-- The tokens that are left of a text, and what the names in them stand for. -/
structure Reader where
  /-- The tokens as far as they can be told. -/
  tokens : List Token
  /-- Why there are no more tokens. -/
  ending : Fault
  /-- The nodes that have been read or started. -/
  graph : Graph := {}
  /-- The nodes with anchors. -/
  anchors : List (String × NodeId) := []
  /-- What the handles of tags stand for. -/
  handles : List (String × String) := []

/-- A step of reading. -/
abbrev Reading := StateT Reader (Except Fault)

/-- Where a node stands, which says in what form a collection may follow. -/
inductive Place where
  /-- In a flow collection. -/
  | flow
  /-- In a block. -/
  | block
  /-- In a block map, where the items of a list need no indentation. -/
  | field
  deriving DecidableEq

/-- An anchor and a tag before a node. -/
structure Properties where
  anchor : Option String := none
  tag : Option TagName := none

namespace Reading

/-- The next token. -/
def peek : Reading Token := do
  let reader ← get
  match reader.tokens with
  | token :: _ => return token
  | [] => throw reader.ending

/-- Goes on to the token after the next. -/
def advance : Reading Unit :=
  modify fun reader => { reader with tokens := reader.tokens.drop 1 }

/-- Takes a token that has to be there. -/
def expect (token : Token) : Reading Unit := do
  if (← peek) = token then advance else throw .malformedConfiguration

/-- Takes the tokens of a class. -/
def takeWhile (has : Token → Bool) : Reading (List Token) := do
  let tokens := (← get).tokens
  modify fun reader => { reader with tokens := tokens.dropWhile has }
  return tokens.takeWhile has

/-- The anchor and the tag that stand here, in either order. -/
def properties : Reading Properties := do
  match ← peek with
  | .anchor anchor =>
    advance
    match ← peek with
    | .tag tag =>
      advance
      return { anchor := some anchor, tag := some tag }
    | _ => return { anchor := some anchor }
  | .tag tag =>
    advance
    match ← peek with
    | .anchor anchor =>
      advance
      return { anchor := some anchor, tag := some tag }
    | _ => return { tag := some tag }
  | _ => return {}

/-- The whole of a tag that may be written with a handle. -/
def tagText (tag : TagName) : Reading String := do
  match tag.handle with
  | none => return tag.suffix
  | some handle =>
    match (← get).handles.lookup handle with
    | some start => return start ++ tag.suffix
    | none => throw .malformedConfiguration

/-- An anchor that is given to a node has to be new. -/
def checkAnchor (anchor : String) : Reading Unit := do
  if ((← get).anchors.lookup anchor).isSome then throw .malformedConfiguration

/-- The node that an anchor stands for. -/
def findAnchor (anchor : String) : Reading NodeId := do
  match (← get).anchors.lookup anchor with
  | some id => return id
  | none => throw .malformedConfiguration

/-- Adds a node, which may have an anchor. -/
def add (anchor : Option String) (kind : Kind) (form : Form) : Reading NodeId := do
  let reader ← get
  let id := reader.graph.size
  let anchors := (anchor.map (·, id)).toList ++ reader.anchors
  set { reader with graph := reader.graph.add ⟨kind, form⟩, anchors }
  return id

/-- Adds the node that is left out. -/
def addEmpty : Reading NodeId :=
  add none Node.empty.kind Node.empty.form

/-- Adds a list or map and then what is in it, where references may lead back to it. -/
def addAround (anchor : Option String) (kind : Kind) (form : Reading Form) : Reading NodeId := do
  let id ← add anchor kind (.list [])
  let form ← form
  modify fun reader => { reader with graph := reader.graph.setForm id form }
  return id

/-- The kind of a scalar. A single exclamation mark as its tag lets its spelling tell the kind. -/
def scalarKind (tag : Option String) (plain : Bool) (text : String) : Kind :=
  match tag with
  | none => if plain then .ofWord text else .text
  | some tag => if tag = "!" then .ofWord text else .ofTag tag

/-- The kind of a collection. -/
def collectionKind (tag : Option String) (untagged : Kind) : Kind :=
  match tag with
  | none => untagged
  | some tag => if tag = "!" then untagged else .ofTag tag

/-- A node, which is left out where one of some tokens follows. -/
def orEmpty (ends : List Token) (node : Reading NodeId) : Reading NodeId := do
  if ends.contains (← peek) then addEmpty else node

/-- The node after a colon. Without the colon it is left out. -/
def afterColon (ends : List Token) (node : Reading NodeId) : Reading NodeId := do
  match ← peek with
  | .value =>
    advance
    orEmpty ends node
  | _ => addEmpty

/-- The room inside a collection for which there is so much room. -/
def deeper : Nat → Reading Nat
  | 0 => throw .tooDeep
  | room + 1 => return room

mutual

/-- The node from here on. Inside it there is room for so many levels. -/
def node (place : Place) (room : Nat) : Nat → Reading NodeId
  | 0 => throw .malformedConfiguration
  | fuel + 1 => do
    match ← peek with
    | .alias anchor =>
      advance
      findAnchor anchor
    | _ =>
      let { anchor, tag } ← properties
      let tag ← tag.mapM tagText
      let token ← peek
      anchor.forM checkAnchor
      content place anchor tag token room fuel
termination_by structural fuel => fuel

/-- The node that starts with a token after its anchor and tag. With one of them it may be left
out. -/
def content (place : Place) (anchor tag : Option String) (token : Token) (room : Nat) :
    Nat → Reading NodeId
  | 0 => throw .malformedConfiguration
  | fuel + 1 => do
    match place, token with
    | .field, .blockItem =>
      addAround anchor (collectionKind tag .list) do
        return .list (← unindentedItems (← deeper room) fuel)
    | _, .scalar text plain =>
      advance
      add anchor (scalarKind tag plain text) (.scalar text)
    | _, .flowListStart =>
      advance
      addAround anchor (collectionKind tag .list) do
        return .list (← flowItems true (← deeper room) fuel)
    | _, .flowMapStart =>
      advance
      addAround anchor (collectionKind tag .map) do
        return .map (← flowFields true (← deeper room) fuel)
    | .block, .blockListStart | .field, .blockListStart =>
      advance
      addAround anchor (collectionKind tag .list) do
        return .list (← blockItems (← deeper room) fuel)
    | .block, .blockMapStart | .field, .blockMapStart =>
      advance
      addAround anchor (collectionKind tag .map) do
        return .map (← blockFields (← deeper room) fuel)
    | _, _ =>
      if anchor.isSome || tag.isSome then add anchor (scalarKind tag true "") (.scalar "")
      else throw .malformedConfiguration
termination_by structural fuel => fuel

/-- The items of a block list up to its end. -/
def blockItems (room : Nat) : Nat → Reading (List NodeId)
  | 0 => throw .malformedConfiguration
  | fuel + 1 => do
    match ← peek with
    | .blockItem =>
      advance
      let item ← orEmpty [.blockItem, .blockEnd] (node .block room fuel)
      return item :: (← blockItems room fuel)
    | _ =>
      expect .blockEnd
      return []
termination_by structural fuel => fuel

/-- The items of a block list without an indentation of its own. -/
def unindentedItems (room : Nat) : Nat → Reading (List NodeId)
  | 0 => throw .malformedConfiguration
  | fuel + 1 => do
    match ← peek with
    | .blockItem =>
      advance
      let item ← orEmpty [.blockItem, .name, .value, .blockEnd] (node .block room fuel)
      return item :: (← unindentedItems room fuel)
    | _ => return []
termination_by structural fuel => fuel

/-- The fields of a block map up to its end. -/
def blockFields (room : Nat) : Nat → Reading (List Field)
  | 0 => throw .malformedConfiguration
  | fuel + 1 => do
    match ← peek with
    | .name =>
      advance
      let ends := [.name, .value, .blockEnd]
      let name ← orEmpty ends (node .field room fuel)
      let value ← afterColon ends (node .field room fuel)
      return (name, value) :: (← blockFields room fuel)
    | _ =>
      expect .blockEnd
      return []
termination_by structural fuel => fuel

/-- The items of a flow list up to its end. A name starts a map of one field. -/
def flowItems (first : Bool) (room : Nat) : Nat → Reading (List NodeId)
  | 0 => throw .malformedConfiguration
  | fuel + 1 => do
    if (← peek) != .flowListEnd && !first then expect .flowSeparator
    match ← peek with
    | .flowListEnd =>
      advance
      return []
    | .name =>
      advance
      let item ← addAround none .map do
        let inner ← deeper room
        let ends := [.flowSeparator, .flowListEnd]
        let name ← orEmpty (.value :: ends) (node .flow inner fuel)
        let value ← afterColon ends (node .flow inner fuel)
        return .map [(name, value)]
      return item :: (← flowItems false room fuel)
    | _ =>
      let item ← node .flow room fuel
      return item :: (← flowItems false room fuel)
termination_by structural fuel => fuel

/-- The fields of a flow map up to its end. A node without a name mark is a name without a
value. -/
def flowFields (first : Bool) (room : Nat) : Nat → Reading (List Field)
  | 0 => throw .malformedConfiguration
  | fuel + 1 => do
    if (← peek) != .flowMapEnd && !first then expect .flowSeparator
    match ← peek with
    | .flowMapEnd =>
      advance
      return []
    | .name =>
      advance
      let ends := [.flowSeparator, .flowMapEnd]
      let name ← orEmpty (.value :: ends) (node .flow room fuel)
      let value ← afterColon ends (node .flow room fuel)
      return (name, value) :: (← flowFields false room fuel)
    | _ =>
      let name ← node .flow room fuel
      return (name, ← addEmpty) :: (← flowFields false room fuel)
termination_by structural fuel => fuel

end

/-- How many levels deep nodes may be nested. -/
def depthLimit : Nat := 485

/-- The node at the start of a block. -/
def root : Reading NodeId := do
  node .block depthLimit (4 * (← get).tokens.length + 8)

/-- The handles of tags that need no directive. -/
def standardHandles : List (String × String) :=
  [("!", "!"), ("!!", Kind.tagStart)]

/-- Whether a token is a directive. -/
def isDirective : Token → Bool
  | .directive _ => true
  | _ => false

/-- Takes the directives before a document. The version is given at most once and has to be one of
the first generation; a handle is declared at most once. -/
def takeDirectives : Reading Unit := do
  let directives ← takeWhile isDirective
  let versions := directives.filterMap fun
    | .directive (.version major _) => some major
    | _ => none
  let handles := directives.filterMap fun
    | .directive (.handle name start) => some (name, start)
    | _ => none
  if 1 < versions.length || versions.any (· != 1) || !(handles.map (·.1)).Nodup then
    throw .malformedConfiguration
  modify fun reader => { reader with handles := handles ++ standardHandles }

/-- The node of the document whose start mark may follow directives. -/
def markedDocument : Reading NodeId := do
  takeDirectives
  expect .documentStart
  match ← peek with
  | .directive _ | .documentStart | .documentEnd | .textEnd => addEmpty
  | _ => root

/-- The node of the document; a text may hold none. -/
def document : Reading NodeId := do
  match ← peek with
  | .textEnd => addEmpty
  | .directive _ | .documentStart => markedDocument
  | _ =>
    modify fun reader => { reader with handles := standardHandles }
    root

/-- Ends the text, which holds no other document. -/
def endText : Reading Unit := do
  let _ ← takeWhile (· = .documentEnd)
  if (← peek) != .textEnd then
    takeDirectives
    let _ ← peek
    throw .malformedConfiguration

end Reading

/-- The nodes of the document that a source holds, and which of them is the outermost one. -/
def Graph.ofSource (source : Source) : Except Fault (NodeId × Graph) := do
  let tokens := Tokens.ofSource source
  let reading : Reading NodeId := do
    let root ← Reading.document
    Reading.endText
    return root
  let (root, reader) ← reading.run { tokens := tokens.tokens, ending := tokens.ending }
  return (root, reader.graph)

end RequestScript.Yaml
