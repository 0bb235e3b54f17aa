import RequestScript.Script.ConfigBlock
import RequestScript.Text.Lines

/-!
# Request scripts

A script is read line by line. A block separator opens a request, and so does any line outside a
request; a request has directives, a method line and headers, and after a blank line its body,
which a line that starts with `@` ends. A doc comment names the collection and the tags of the
whole script. Requests without a URL are dropped; the others get the defaults of the script and
of their configuration block.
-/

namespace RequestScript

open Text

/-- What a request script says. -/
structure Document where
  /-- The requests in order. -/
  requests : List Request := []
  /-- The configuration blocks in order. -/
  configs : List ConfigBlock := []
  /-- The collection of the whole script. -/
  collection : Option String := none
  /-- The tags of the whole script. -/
  tags : List String := []
  deriving DecidableEq

namespace Document

/-- A request whose block is being read. -/
structure Draft where
  /-- What the lines so far say. -/
  request : Request
  /-- The lines of the body that is being read, the last one first. -/
  body : List (List Char) := []

namespace Draft

/-- An empty request whose block starts at a line. -/
def start (line : Nat) : Draft :=
  { request := { startLine := line, endLine := line } }

/-- The draft after its body has ended; a body of nothing but blanks is none. -/
def endBody (draft : Draft) : Draft :=
  let body := trim (join ['\n'] draft.body.reverse)
  let request := draft.request
  { request :=
      if body.isEmpty then request else { request with body := some (String.ofList body) } }

/-- The request of a draft whose block ends at a line, if it has a URL. -/
def close? (draft : Draft) (line : Nat) : Option Request :=
  let request := { draft.endBody.request with endLine := line }
  if request.url.isEmpty then none else some request

end Draft

/-- Where the reading of a script stands. -/
inductive Mode where
  /-- In no request. -/
  | outside
  /-- In a request, before or after its body. -/
  | head (draft : Draft)
  /-- In the body of a request. -/
  | body (draft : Draft)
  /-- In a doc comment, which may stand in the head of a request. -/
  | doc (draft : Option Draft)
  /-- In a configuration block. -/
  | config (reading : ConfigBlock.Reading)

/-- What has been read of a script. -/
structure Reading where
  /-- Where the reading stands. -/
  mode : Mode := .outside
  /-- The finished requests, the last one first. -/
  requests : List Request := []
  /-- The finished configuration blocks, the last one first. -/
  configs : List ConfigBlock := []
  /-- The collection of the whole script. -/
  collection : Option String := none
  /-- The tags of the whole script. -/
  tags : List String := []

namespace Reading

/-- The open request. -/
def draft? (reading : Reading) : Option Draft :=
  match reading.mode with
  | .head draft | .body draft => some draft
  | .doc draft => draft
  | .outside | .config _ => none

/-- The reading after whatever was open has ended before a line. -/
def closeBefore (reading : Reading) (line : Nat) : Reading :=
  match reading.mode with
  | .config current =>
    { reading with mode := .outside, configs := current.block :: reading.configs }
  | _ =>
    match reading.draft? with
    | none => { reading with mode := .outside }
    | some draft =>
      { reading with
        mode := .outside
        requests := (draft.close? (line - 1)).toList ++ reading.requests }

/-- The reading with what a line of a doc comment says about the whole script. -/
def applyDoc (reading : Reading) (text : List Char) : Reading :=
  let text := trim text
  let text := match text with
    | '*' :: rest => trimStart rest
    | text => text
  match Directive.split? text with
  | some (name, c :: argument) =>
    match String.ofList name with
    | "collection" =>
      { reading with collection := some (String.ofList (trim (c :: argument))) }
    | "tags" => { reading with tags := Directive.splitTags (c :: argument) }
    | _ => reading
  | _ => reading

/-- The end of a doc comment. -/
def docEnd : List Char := ['*', '/']

/-- The start of a doc comment. -/
def docStart : List Char := ['/', '*', '*']

/-- What marks a configuration block. -/
def configMarker : List Char := "@config".toList

/-- The mode in which a request is read that may not be open. -/
def headMode : Option Draft → Mode
  | some draft => .head draft
  | none => .outside

/-- The reading after the text of a doc comment on one line. -/
def docLine (reading : Reading) (draft : Option Draft) (text : List Char) : Reading :=
  match dropEnding? docEnd text with
  | some text => { reading.applyDoc text with mode := headMode draft }
  | none => { reading.applyDoc text with mode := .doc draft }

/-- The reading after a line in the head of a request. A blank line after the URL opens the
body. -/
def headLine (reading : Reading) (draft : Draft) (cs : List Char) : Except Fault Reading :=
  if cs.isEmpty then
    .ok { reading with mode := if draft.request.url.isEmpty then .head draft else .body draft }
  else do
    let request := draft.request.applyLine (← ScriptLine.read cs)
    return { reading with mode := .head { draft with request } }

/-- The reading after a line that is in no configuration block. -/
def line (reading : Reading) (index : Nat) (line : List Char) : Except Fault Reading :=
  let cs := trim line
  match reading.mode with
  | .doc draft => .ok (reading.docLine draft cs)
  | mode =>
    let inBody := match mode with
      | .body _ => true
      | _ => false
    if cs = configMarker then
      let block := { startLine := index, endLine := index }
      .ok { reading.closeBefore index with mode := .config { block } }
    else if !inBody && docStart.isPrefixOf cs then
      .ok (reading.docLine reading.draft? (cs.drop docStart.length))
    else if isSeparator cs then
      .ok { reading.closeBefore index with mode := .head (.start index) }
    else match mode with
      | .head draft => reading.headLine draft cs
      | .body draft =>
        if ['@'].isPrefixOf cs then reading.headLine draft.endBody cs
        else .ok { reading with mode := .body { draft with body := line :: draft.body } }
      | _ => if cs.isEmpty then .ok reading else reading.headLine (.start index) cs

/-- The reading after one more line. A line that ends a configuration block is read again
outside it. -/
def step (reading : Reading) (index : Nat) (text : List Char) : Except Fault Reading :=
  match reading.mode with
  | .config current =>
    match current.step? index text with
    | some next => .ok { reading with mode := .config next }
    | none => (reading.closeBefore index).line index text
  | _ => reading.line index text

/-- The reading after more lines, the first of which has a number. -/
def steps (reading : Reading) (index : Nat) : List (List Char) → Except Fault Reading
  | [] => .ok reading
  | text :: rest => do (← reading.step index text).steps (index + 1) rest

end Reading

/-- The configuration block for a request: the first one for its collection, or else the first
one for no collection. -/
def configFor? (configs : List ConfigBlock) (request : Request) : Option ConfigBlock :=
  let own := request.collection.bind fun name =>
    configs.find? fun block => block.collection == some name
  own.orElse fun _ => configs.find? fun block => block.collection.isNone

/-- A URL that starts with a slash, appended to a base without the slashes at its end. -/
def joinUrl (base url : String) : String :=
  String.ofList (base.toList.reverse.dropWhile (· == '/')).reverse ++ url

/-- A number that is there and is not zero. -/
def isSet (n : Option Int) : Bool :=
  n.any (· != 0)

/-- A request with the defaults of a configuration block. -/
def applyConfig (block : ConfigBlock) (request : Request) : Request :=
  { request with
    config := some block
    url := match block.baseUrl with
      | some base =>
        if ['/'].isPrefixOf request.url.toList then joinUrl base request.url else request.url
      | none => request.url
    headers := Table.merge block.headers request.headers
    timeout := if isSet block.timeout && !isSet request.timeout then block.timeout
      else request.timeout
    retry := match request.retry, block.retries with
      | none, some count => if count = 0 then none else some { count }
      | retry, _ => retry
    assertions := block.assertions ++ request.assertions }

/-- A request with the defaults of its configuration block. -/
def resolveConfig (configs : List ConfigBlock) (request : Request) : Request :=
  match configFor? configs request with
  | some block => applyConfig block request
  | none => request

/-- A request with the collection and the tags of the whole script. -/
def applyDefaults (collection : Option String) (tags : List String) (request : Request) :
    Request :=
  { request with
    collection := request.collection.orElse fun _ => collection
    tags := if tags.isEmpty then request.tags else Directive.dedupe (tags ++ request.tags) }

/-- What a whole script says, once its lines have been read. -/
def ofReading (reading : Reading) (lineCount : Nat) : Document :=
  let reading := reading.closeBefore lineCount
  let configs := reading.configs.reverse
  { requests := reading.requests.reverse.map fun request =>
      resolveConfig configs (applyDefaults reading.collection reading.tags request)
    configs
    collection := reading.collection
    tags := reading.tags }

/-- What a script says. The only fault is a numeral with too many digits in a directive. -/
def parse (text : String) : Except Fault Document := do
  let texts := lines text.toList
  return ofReading (← ({} : Reading).steps 0 texts) texts.length

end Document

end RequestScript
