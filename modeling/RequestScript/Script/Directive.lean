import RequestScript.Fault
import RequestScript.Script.Request
import RequestScript.Text.Numeral
import RequestScript.Text.Word

/-!
# Directives

A directive is a line `@name argument`. Its name is an ASCII letter followed by word characters
and dashes. A directive whose argument does not have the form that its name asks for, and one
with an unknown name, says nothing.
-/

namespace RequestScript

open Text

/-- What a directive says about its request. -/
inductive Directive where
  | collection (name : String)
  | id (id : String)
  | name (name : String)
  | group (name : String)
  | tags (tags : List String)
  | deprecated
  | pre (id : String)
  | retry (retry : Retry)
  | timeout (milliseconds : Nat)
  | header (key value : String)
  | capture (capture : Capture)
  | assertion (assertion : Assertion)
  | query (pair : QueryPair)
  | form (field : FormField)
  | bodyFile (path : String)
  deriving DecidableEq

namespace Directive

/-- An ASCII letter or digit. -/
def isIdChar (c : Char) : Bool :=
  c.isAlphanum

/-- The number of characters of an identifier. -/
def idLength : Nat := 6

/-- Whether a text is the identifier of a request: six ASCII letters and digits. -/
def isId (cs : List Char) : Bool :=
  cs.length == idLength && cs.all isIdChar

/-- The name and the argument of a directive line. -/
def split? : List Char → Option (List Char × List Char)
  | '@' :: first :: rest =>
    let isNameChar (c : Char) : Bool := isWord c || c == '-'
    let name := first :: rest.takeWhile isNameChar
    match rest.dropWhile isNameChar with
    | [] => if first.isAlpha then some (name, []) else none
    | c :: argument =>
      if first.isAlpha && isBlank c then some (name, trimStart argument) else none
  | _ => none

/-- The tags in a list separated by commas. -/
def splitTags (cs : List Char) : List String :=
  ((pieces ',' cs).map trim).filterMap fun tag =>
    if tag.isEmpty then none else some (String.ofList tag)

/-- The tags without repetitions, in the order of their first occurrence. -/
def dedupe (tags : List String) : List String :=
  tags.foldl (fun kept tag => if kept.contains tag then kept else kept ++ [tag]) []

/-- The number that a digit text denotes. -/
def number (digits : List Char) : Except Fault Nat :=
  match readNat? digits with
  | some n => .ok n
  | none => .error .numeralTooLong

/-- A word and the blanks around it, taken off the start of a text. -/
def dropSpacedWord? (word cs : List Char) : Option (List Char) := do
  let blanks := cs.takeWhile isBlank
  if blanks.isEmpty then none
  let rest ← dropStart? word (cs.drop blanks.length)
  let after := rest.dropWhile isBlank
  if after.length = rest.length then none else some after

/-- Reads `COUNT [delay MILLISECONDS]`; anything may follow. -/
def readRetry (cs : List Char) : Except Fault (Option Directive) :=
  let count := cs.takeWhile isDigit
  if count.isEmpty then .ok none
  else do
    let delay := (dropSpacedWord? "delay".toList (cs.drop count.length)).map
      (·.takeWhile isDigit)
    let delay ← match delay with
      | some (c :: more) => (number (c :: more)).map some
      | _ => .ok none
    return some (.retry { count := ← number count, delay })

/-- Reads `MILLISECONDS`; anything may follow. -/
def readTimeout (cs : List Char) : Except Fault (Option Directive) :=
  let digits := cs.takeWhile isDigit
  if digits.isEmpty then .ok none else return some (.timeout (← number digits))

/-- Reads `Key: value`, with both sides present. -/
def readHeader (cs : List Char) : Option Directive :=
  match cut? ':' cs with
  | some (c :: key, value) =>
    let value := trim value
    if value.isEmpty then none
    else some (.header (String.ofList (trim (c :: key))) (String.ofList value))
  | _ => none

/-- The right side of `name = value`, without the blanks around it. -/
def afterEquals? (cs : List Char) : Option (List Char) :=
  match trimStart cs with
  | '=' :: value => some (trim value)
  | _ => none

/-- A capture into a scope: a name made of the given characters, `=`, and a query. -/
def captureOf? (isNameChar : Char → Bool) (scope : Scope) (cs : List Char) : Option Directive :=
  let name := cs.takeWhile isNameChar
  match afterEquals? (cs.drop name.length) with
  | some (c :: rest) =>
    if name.isEmpty then none
    else some (.capture ⟨scope, String.ofList name, String.ofList (c :: rest)⟩)
  | _ => none

/-- A capture that starts with a scope and a dot; its name may have dots. -/
def scopedCapture? (cs : List Char) : Option Directive :=
  Scope.all.findSome? fun scope => do
    captureOf? (fun c => isWord c || c == '.') scope
      (← dropStart? (scope.word.toList ++ ['.']) cs)

/-- Reads `[scope.]name = query`; without a scope the session keeps the value. -/
def readCapture (cs : List Char) : Option Directive :=
  (scopedCapture? cs).orElse fun _ => captureOf? isWord .session cs

/-- The sides of `key = value`; the value may be empty. -/
def pair? (cs : List Char) : Option (List Char × List Char) := do
  let key := cs.takeWhile fun c => c != '=' && !isBlank c
  if key.isEmpty then none
  return (key, ← afterEquals? (cs.drop key.length))

/-- Reads `key = value`. -/
def readQuery (cs : List Char) : Option Directive :=
  (pair? cs).map fun (key, value) => .query ⟨String.ofList key, String.ofList value⟩

/-- Reads `key = value`, or `key = @path;type=mime` for a file. -/
def readForm (cs : List Char) : Option Directive :=
  (pair? cs).map fun (key, value) =>
    let key := String.ofList key
    match value with
    | '@' :: c :: rest =>
      let (path, mime) := (cutText? ";type=".toList (c :: rest)).getD (c :: rest, [])
      let mime := trim mime
      .form {
        key
        file := some (String.ofList (trim path))
        mime := if mime.isEmpty then none else some (String.ofList mime) }
    | value => .form { key, value := String.ofList value }

/-- A directive that takes any text but the empty one. -/
def ofText (make : String → Directive) (cs : List Char) : Option Directive :=
  if cs.isEmpty then none else some (make (String.ofList cs))

/-- A directive that takes an identifier. -/
def ofId (make : String → Directive) (cs : List Char) : Option Directive :=
  if isId cs then some (make (String.ofList cs)) else none

/-- What a directive with a name and an argument without blanks around it says. -/
def read (name : String) (argument : List Char) : Except Fault (Option Directive) :=
  match name with
  | "collection" => .ok (ofText .collection argument)
  | "id" => .ok (ofId .id argument)
  | "name" => .ok (ofText .name argument)
  | "group" => .ok (ofText .group argument)
  | "tags" =>
    let tags := splitTags argument
    .ok (if tags.isEmpty then none else some (.tags (dedupe tags)))
  | "deprecated" => .ok (some .deprecated)
  | "pre" => .ok (ofId .pre argument)
  | "retry" => readRetry argument
  | "timeout" => readTimeout argument
  | "header" => .ok (readHeader argument)
  | "capture" => .ok (readCapture argument)
  | "assert" => .ok ((Assertion.ofChars? argument).map .assertion)
  | "query" => .ok (readQuery argument)
  | "form" => .ok (readForm argument)
  | "file" => .ok (ofText .bodyFile argument)
  | _ => .ok none

end Directive

/-- A request with what a directive says about it. Identifiers of earlier requests, captures,
assertions, query parameters and form parts add up; everything else is replaced. -/
def Request.apply (request : Request) : Directive → Request
  | .collection name => { request with collection := some name }
  | .id id => { request with id := some id }
  | .name name => { request with name := some name }
  | .group name => { request with group := some name }
  | .tags tags => { request with tags := tags }
  | .deprecated => { request with deprecated := true }
  | .pre id => { request with pre := request.pre ++ [id] }
  | .retry retry => { request with retry := some retry }
  | .timeout milliseconds => { request with timeout := some milliseconds }
  | .header key value => { request with headers := Table.set request.headers key value }
  | .capture capture => { request with captures := request.captures ++ [capture] }
  | .assertion assertion => { request with assertions := request.assertions ++ [assertion] }
  | .query pair => { request with query := request.query ++ [pair] }
  | .form field => { request with form := request.form ++ [field] }
  | .bodyFile path => { request with bodyFile := some path }

end RequestScript
