import RequestScript.Text.Split

/-!
# Paths

A path as it is written, without repeated slashes and single dots; double dots stay. Exactly two
slashes at the start are a root of their own.
-/

namespace RequestScript

open Text

/-- A path. -/
structure Path where
  /-- The slashes at its start: none for a relative path. -/
  root : String
  /-- The names between slashes. -/
  parts : List String
  deriving DecidableEq

namespace Path

/-- The root that a text starts with. -/
def rootOf : List Char → String
  | '/' :: '/' :: '/' :: _ => "/"
  | '/' :: '/' :: _ => "//"
  | '/' :: _ => "/"
  | _ => ""

/-- The names between the slashes of a text. -/
def partsOf (cs : List Char) : List String :=
  ((pieces '/' cs).map String.ofList).filter fun part => part != "" && part != "."

/-- The path that a text spells. -/
def ofString (s : String) : Path :=
  ⟨rootOf s.toList, partsOf s.toList⟩

/-- The text of a path; the empty one is a dot. -/
def text (path : Path) : String :=
  if path.root.isEmpty && path.parts.isEmpty then "."
  else path.root ++ "/".intercalate path.parts

/-- Whether a path starts at a root. -/
def isAbsolute (path : Path) : Bool :=
  !path.root.isEmpty

/-- A path taken from another one; an absolute path is taken as it is. -/
def join (base path : Path) : Path :=
  if path.isAbsolute then path else { base with parts := base.parts ++ path.parts }

/-- A path with one more name. -/
def child (path : Path) (name : String) : Path :=
  path.join (ofString name)

/-- The path without its last name. -/
def parent (path : Path) : Path :=
  { path with parts := path.parts.dropLast }

/-- The last name of a path. -/
def name (path : Path) : String :=
  path.parts.getLast?.getD ""

/-- Names with each double dot taken as a step up. -/
def normalize (parts : List String) : List String :=
  parts.foldl (fun done part => if part = ".." then done.dropLast else done ++ [part]) []

/-- The absolute names of a path that is taken from a directory. -/
def locate (directory : List String) (path : Path) : List String :=
  if path.isAbsolute then path.parts else directory ++ path.parts

/-- The path without double dots, taken from a directory. -/
def resolve (directory : List String) (path : Path) : Path :=
  ⟨"/", normalize (path.locate directory)⟩

end Path

end RequestScript
