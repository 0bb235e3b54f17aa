/-!
# YAML tokens

What a YAML text is cut into. Block collections have tokens for their starts and ends, which the
indentation implies, and a name in a map has a token before it.
-/

namespace RequestScript.Yaml

/-- A directive before a document. -/
inductive Directive where
  /-- The version of YAML that the document is written in. -/
  | version (major minor : Nat)
  /-- A handle for tags that start alike. -/
  | handle (name start : String)
  /-- A directive that means nothing yet. -/
  | reserved
  deriving DecidableEq

/-- A tag as it is written. -/
structure TagName where
  /-- The handle, if the tag is written with one. -/
  handle : Option String
  /-- The rest of the tag. -/
  suffix : String
  deriving DecidableEq

/-- A token. -/
inductive Token where
  | directive (directive : Directive)
  | documentStart
  | documentEnd
  | textEnd
  | blockListStart
  | blockMapStart
  | blockEnd
  /-- The dash before an item of a block list. -/
  | blockItem
  | flowListStart
  | flowListEnd
  | flowMapStart
  | flowMapEnd
  /-- The comma between items of a flow collection. -/
  | flowSeparator
  /-- A name in a map follows. -/
  | name
  /-- The colon before a value in a map. -/
  | value
  /-- A reference to an anchor. -/
  | alias (anchor : String)
  /-- A name for the node that follows. -/
  | anchor (name : String)
  | tag (name : TagName)
  /-- A scalar, with whether it is plain. -/
  | scalar (text : String) (plain : Bool)
  deriving DecidableEq

end RequestScript.Yaml
