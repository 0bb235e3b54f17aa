import RequestScript.Text.Blank
import RequestScript.Text.Split

/-!
# Cookies

A cookie as a server sets it: a name, a value, and the attributes after the first semicolon.
-/

namespace RequestScript

open Text

/-- A cookie. -/
structure Cookie where
  /-- What the cookie is called. -/
  name : String
  /-- What it holds. -/
  value : String
  /-- Its attributes, separated by a semicolon and a space. -/
  attributes : String
  deriving DecidableEq

namespace Cookie

/-- The cookie that a header value sets, unless nothing stands before an equals sign. -/
def ofHeader? (header : String) : Option Cookie :=
  match pieces ';' header.toList with
  | [] => none
  | pair :: attributes =>
    match cut? '=' pair with
    | none | some ([], _) => none
    | some (name, value) => some {
        name := String.ofList (trim name)
        value := String.ofList (trim value)
        attributes := String.ofList (join [';', ' '] (attributes.map trim)) }

/-- The cookies that header values set, in order. -/
def ofHeaders (headers : List String) : List Cookie :=
  headers.filterMap ofHeader?

end Cookie

end RequestScript
