import RequestScript.Assertion
import RequestScript.Header
import RequestScript.Scope

/-!
# Requests and configuration blocks

What a request script describes: requests with their directives, and configuration blocks that
hold defaults for the requests of a collection or of the whole script.
-/

namespace RequestScript

/-- How often a failed request is tried again. -/
structure Retry where
  /-- The number of attempts after the first. -/
  count : Int
  /-- The wait before an attempt, in milliseconds; without one the runner's default counts. -/
  delay : Option Nat := none
  deriving DecidableEq

/-- A value that is kept from a response. -/
structure Capture where
  /-- The layer that keeps it. -/
  scope : Scope
  /-- The name under which it is kept. -/
  variableName : String
  /-- The part of the response that is kept. -/
  query : String
  deriving DecidableEq

/-- A query parameter. -/
structure QueryPair where
  /-- The name of the parameter. -/
  key : String
  /-- Its value. -/
  value : String
  deriving DecidableEq

/-- A part of a multipart form: a text, or a file that is sent from disk. -/
structure FormField where
  /-- The name of the part. -/
  key : String
  /-- The text, where there is no file. -/
  value : String := ""
  /-- The path of the file. -/
  file : Option String := none
  /-- The media type of the file; without one it is guessed from the path. -/
  mime : Option String := none
  deriving DecidableEq

/-- Defaults for the requests of one collection, or of the whole script. -/
structure ConfigBlock where
  /-- The collection that the block is for. -/
  collection : Option String := none
  /-- What a URL that starts with a slash is appended to. -/
  baseUrl : Option String := none
  /-- Headers of every request. -/
  headers : Headers := []
  /-- The timeout in milliseconds. -/
  timeout : Option Int := none
  /-- The number of attempts after the first. -/
  retries : Option Int := none
  /-- Assertions of every request. -/
  assertions : List Assertion := []
  /-- The line of the block's marker. -/
  startLine : Nat := 0
  /-- The last line that belongs to the block. -/
  endLine : Nat := 0
  deriving DecidableEq

/-- A request of a script. Of the three sources of a body a form counts first, then a body file,
then the inline body. -/
structure Request where
  /-- The method. -/
  method : String := "GET"
  /-- The URL as it is written. -/
  url : String := ""
  /-- The identifier that other requests refer to. -/
  id : Option String := none
  /-- The name that is shown. -/
  name : Option String := none
  /-- The collection that the request belongs to. -/
  collection : Option String := none
  /-- The group that the request belongs to. -/
  group : Option String := none
  /-- Distinct tags. -/
  tags : List String := []
  /-- Whether the request is marked as deprecated. -/
  deprecated : Bool := false
  /-- The headers. -/
  headers : Headers := []
  /-- The inline body. -/
  body : Option String := none
  /-- The path of a file that holds the body. -/
  bodyFile : Option String := none
  /-- The parts of a multipart form. -/
  form : List FormField := []
  /-- The query parameters that are appended to the URL. -/
  query : List QueryPair := []
  /-- What is kept from the response. -/
  captures : List Capture := []
  /-- How often the request is tried again. -/
  retry : Option Retry := none
  /-- The timeout in milliseconds. -/
  timeout : Option Int := none
  /-- What the response has to satisfy. -/
  assertions : List Assertion := []
  /-- The identifiers of the requests that run before this one. -/
  pre : List String := []
  /-- The first line of the request's block. -/
  startLine : Nat := 0
  /-- The last line of the request's block. -/
  endLine : Nat := 0
  /-- The file that the request was read from. -/
  filePath : Option String := none
  /-- The configuration block whose defaults were applied. -/
  config : Option ConfigBlock := none
  deriving DecidableEq

namespace Request

/-- Whether a request cannot be referred to. -/
def hasMissingId (request : Request) : Bool :=
  request.id.isNone

/-- The name of a request, or else its method and URL. -/
def displayName (request : Request) : String :=
  request.name.getD (request.method ++ " " ++ request.url)

end Request

end RequestScript
