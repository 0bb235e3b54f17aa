import RequestScript.Table
import RequestScript.Text.Case

/-!
# Headers

Header names keep their spelling; a look-up that ignores case prefers the exact spelling.
-/

namespace RequestScript

/-- Header values by name. -/
abbrev Headers := Table String

namespace Headers

/-- Whether two names differ in case only. -/
def sameName (a b : String) : Bool :=
  Text.lowercased a == Text.lowercased b

/-- The value of a name: that of the exact spelling, or else the first of any spelling. -/
def find? (headers : Headers) (name : String) : Option String :=
  match Table.get? headers name with
  | some value => some value
  | none => (List.find? (fun header => sameName header.1 name) headers).map (·.2)

/-- The headers without those of a name in any spelling; the name is given in lower case. -/
def without (headers : Headers) (name : String) : Headers :=
  List.filter (fun header => Text.lowercased header.1 != name) headers

end Headers

end RequestScript
