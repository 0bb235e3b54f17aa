import RequestScript.Percent
import RequestScript.Script.Request
import RequestScript.World

/-!
# Resolved requests

A request with every placeholder replaced, as it would be sent. Placeholders are replaced in the
order URL, query parameters, headers, body, body file, form.
-/

namespace RequestScript

/-- A request with every placeholder replaced. -/
structure ResolvedRequest where
  method : String
  url : String
  headers : Headers
  body : Option String
  bodyFile : Option String
  form : List FormField

namespace Request

/-- A query parameter as a part of a URL. -/
def queryText (pair : QueryPair) : Action String := do
  let key ← Action.interpolate pair.key
  let value ← Action.interpolate pair.value
  return Percent.encode key ++ "=" ++ Percent.encode value

/-- A URL with encoded query parameters after it. -/
def appendQuery (url : String) (pairs : List String) : String :=
  if pairs.isEmpty then url
  else url ++ (if url.toList.contains '?' then "&" else "?") ++ "&".intercalate pairs

/-- The URL of a request, with its query parameters. -/
def resolveUrl (request : Request) : Action String := do
  let url ← Action.interpolate request.url
  return appendQuery url (← request.query.mapM queryText)

/-- The headers of a request. -/
def resolveHeaders (request : Request) : Action Headers :=
  request.headers.mapM fun (name, value) => do return (name, ← Action.interpolate value)

/-- A text that is there and not empty, with every placeholder replaced. -/
def interpolateGiven (text : Option String) : Action (Option String) := do
  match text.filter (!·.isEmpty) with
  | some text => return some (← Action.interpolate text)
  | none => return none

/-- A part of a form. -/
def resolveField (field : FormField) : Action FormField := do
  let value ← Action.interpolate field.value
  let file ← interpolateGiven field.file
  return { field with value, file }

/-- A request with every placeholder replaced. -/
def resolve (request : Request) : Action ResolvedRequest := do
  let url ← request.resolveUrl
  let headers ← request.resolveHeaders
  let body ← interpolateGiven request.body
  let bodyFile ← interpolateGiven request.bodyFile
  let form ← request.form.mapM resolveField
  return { method := request.method, url, headers, body, bodyFile, form }

/-- The path of a file that a request refers to, taken from the directory of its script. -/
def filePathOf (request : Request) (path : String) : Path :=
  let path := Path.ofString path
  match request.filePath.filter (!·.isEmpty) with
  | some script => (Path.ofString script).parent.join path
  | none => path

end Request

end RequestScript
