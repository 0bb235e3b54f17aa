import RequestScript.Script.Directive
import RequestScript.Text.Case

/-!
# Lines of a request

A line of a request that is not part of its body is a comment, a directive, a method line, a
header, or nothing that the script knows. The kinds are tried in this order.
-/

namespace RequestScript

open Text

/-- What a line of a request says. -/
inductive ScriptLine where
  /-- A comment. -/
  | comment
  /-- A directive, which may say nothing. -/
  | directive (directive : Option Directive)
  /-- The method and the URL. -/
  | method (method url : String)
  /-- A header. -/
  | header (key value : String)
  /-- A line that is dropped. -/
  | other
  deriving DecidableEq

namespace ScriptLine

/-- The methods that open a method line. -/
def methods : List (List Char) :=
  ["GET", "POST", "PUT", "DELETE", "PATCH", "HEAD", "OPTIONS"].map String.toList

/-- Whether a character is a capital ASCII letter when case is ignored. The long s and the
dotless and dotted i are taken for the letters that they are variants of. -/
def matchesLetter (letter c : Char) : Bool :=
  c.toUpper == letter || (letter == 'S' && c == 'ſ') ||
    (letter == 'I' && (c == 'ı' || c == 'İ'))

/-- Whether a word is a method when case is ignored. -/
def matchesMethod : List Char → List Char → Bool
  | [], [] => true
  | letter :: letters, c :: word => matchesLetter letter c && matchesMethod letters word
  | _, _ => false

/-- The method, in upper case, and the URL of a method line. -/
def methodLine? (cs : List Char) : Option (String × String) :=
  let word := cs.takeWhile (!isBlank ·)
  let url := trim (cs.drop word.length)
  if methods.any (matchesMethod · word) && !url.isEmpty then
    some (String.ofList (upper word), String.ofList url)
  else none

/-- Whether a character may stand in a header name. -/
def isHeaderChar (c : Char) : Bool :=
  c.isAlphanum || "!#$%&\x27*+.^_\x60|~-".toList.contains c

/-- The name and value of a header line. A line that starts with `http` is none. -/
def headerLine? (cs : List Char) : Option (String × String) :=
  if "http".toList.isPrefixOf cs then none
  else match cut? ':' cs with
    | some (key, value) =>
      let key := trim key
      if isAll isHeaderChar key then some (String.ofList key, String.ofList (trim value))
      else none
    | none => none

/-- Whether a line is a comment. -/
def isComment (cs : List Char) : Bool :=
  ['#'].isPrefixOf cs || ['/', '/'].isPrefixOf cs

/-- What a line without blanks around it says. -/
def read (cs : List Char) : Except Fault ScriptLine :=
  if isComment cs then .ok .comment
  else match Directive.split? cs with
    | some (name, argument) => return .directive (← Directive.read (String.ofList name) argument)
    | none =>
      match methodLine? cs with
      | some (name, url) => .ok (.method name url)
      | none =>
        match headerLine? cs with
        | some (name, value) => .ok (.header name value)
        | none => .ok .other

end ScriptLine

/-- A request with what one of its lines says. -/
def Request.applyLine (request : Request) : ScriptLine → Request
  | .comment | .directive none | .other => request
  | .directive (some directive) => request.apply directive
  | .method method url => { request with method, url }
  | .header key value => { request with headers := Table.set request.headers key value }

end RequestScript
