import RequestScript.Fault

/-!
# File trees

Directories and files by their absolute names. A step through a name needs a directory there,
also where a double dot leads out of it again, and a name that is looked up in a directory has at
most 255 bytes.
-/

namespace RequestScript

/-- The contents of files are equal where their bytes are. -/
instance (priority := high) instDecidableEqContent : DecidableEq ByteArray :=
  ByteArray.instDecidableEq

/-- What stands at a place of a file tree. -/
inductive FileNode where
  | directory
  | file (content : ByteArray)
  deriving DecidableEq

/-- Directories and files by their absolute names. The root is always a directory. -/
structure FileTree where
  /-- What stands at each place, in no particular order. -/
  nodes : List (List String × FileNode)

namespace FileTree

/-- What stands at a place. -/
def node? (tree : FileTree) (place : List String) : Option FileNode :=
  if place.isEmpty then some .directory
  else (tree.nodes.find? (·.1 == place)).map (·.2)

/-- The tree with something put at a place. -/
def put (tree : FileTree) (place : List String) (node : FileNode) : FileTree :=
  if tree.nodes.any (·.1 == place) then
    { nodes := tree.nodes.map fun entry => if entry.1 == place then (place, node) else entry }
  else { nodes := tree.nodes ++ [(place, node)] }

/-- The number of bytes that a name in a directory may have. -/
def nameLimit : Nat := 255

/-- Whether a name has more bytes than a name in a directory may have. -/
def isTooLong (name : String) : Bool :=
  nameLimit < name.utf8ByteSize

/-- The place that names lead to from a place. -/
def walk (tree : FileTree) (place : List String) : List String → Except Fault (List String)
  | [] => .ok place
  | name :: rest =>
    match tree.node? place with
    | some .directory =>
      if isTooLong name then .error .nameTooLong
      else tree.walk (if name = ".." then place.dropLast else place ++ [name]) rest
    | some (.file _) => .error .notADirectory
    | none => .error .noSuchFile

/-- What stands where names lead to from the root. -/
def find (tree : FileTree) (names : List String) : Except Fault FileNode := do
  match tree.node? (← tree.walk [] names) with
  | some node => return node
  | none => throw .noSuchFile

/-- The content of a file. -/
def read (tree : FileTree) (names : List String) : Except Fault ByteArray := do
  match ← tree.find names with
  | .file content => return content
  | .directory => throw .isDirectory

/-- The tree with a file written. Its directory has to be there. -/
def write (tree : FileTree) (names : List String) (content : ByteArray) :
    Except Fault FileTree := do
  let place ← tree.walk [] names
  match tree.node? place.dropLast, tree.node? place with
  | some .directory, some .directory => throw .isDirectory
  | some .directory, _ => return tree.put place (.file content)
  | some (.file _), _ => throw .notADirectory
  | none, _ => throw .noSuchFile

/-- The tree with one more directory, where nothing has been. -/
def makeDirectory (tree : FileTree) (names : List String) : Except Fault FileTree := do
  let place ← tree.walk [] names
  match tree.node? place with
  | some _ => throw .alreadyThere
  | none => return tree.put place .directory

/-- The tree with the directories on a way made where they are missing, up to the first that
cannot be made, and why that one cannot. -/
def makeDirectories (tree : FileTree) (place : List String) :
    List String → FileTree × Except Fault Unit
  | [] => (tree, .ok ())
  | name :: rest =>
    if name = ".." then tree.makeDirectories place.dropLast rest
    else if isTooLong name then (tree, .error .nameTooLong)
    else
      let place := place ++ [name]
      match tree.node? place with
      | some .directory => tree.makeDirectories place rest
      | some (.file _) => (tree, .error .notADirectory)
      | none => (tree.put place .directory).makeDirectories place rest

end FileTree

end RequestScript
