import RequestScript.Script.Document
import RequestScript.World

/-!
# Scripts in files

A script that is read from a file; its requests remember the file.
-/

namespace RequestScript.Document

/-- The document whose requests come from a file. -/
def withFile (document : Document) (file : String) : Document :=
  { document with
    requests := document.requests.map fun request => { request with filePath := some file } }

/-- What the script in a file says. -/
def load (path : Path) : Action Document := do
  let document ← parse (← Action.readText path)
  return document.withFile (← Action.resolve path).text

end RequestScript.Document
