import RequestScript.Datum
import RequestScript.FileTree
import RequestScript.Header
import RequestScript.Value.Reader

/-!
# HTTP exchanges

A call is what is put on the wire; a reply is what comes back, a response or a failure. The
outcome of a call is what the rest of the program sees of the reply.
-/

namespace RequestScript

/-- A number of seconds as it is given and shown: an integer or a double. -/
inductive Seconds where
  | whole (n : Int)
  | fraction (x : Double)
  deriving DecidableEq

/-- The text of a number of seconds. -/
def Seconds.text : Seconds → String
  | .whole n => String.ofList (Text.decimalInt n)
  | .fraction x => x.text

/-- A part of a multipart form on the wire. -/
inductive Part where
  | text (key value : String)
  | file (key name : String) (content : ByteArray) (mime : String)
  deriving DecidableEq

/-- What a request carries. -/
inductive Payload where
  | nothing
  | text (s : String)
  | bytes (content : ByteArray)
  | form (parts : List Part)
  deriving DecidableEq

/-- A call on the wire. -/
structure Call where
  method : String
  url : String
  /-- The headers, where any were given. -/
  headers : Option Headers
  /-- The time after which the call is given up. -/
  timeout : Option Seconds
  /-- The data that is sent, where there is any. -/
  data : Option ByteArray
  /-- The parts of a multipart form. -/
  parts : Option (List Part)
  deriving DecidableEq

/-- Why a call fails. -/
inductive Failure where
  /-- The reply took too long. -/
  | timeout
  /-- The server could not be reached. -/
  | connection
  /-- The request could not be carried out for another reason. -/
  | request
  /-- An error that nothing accounts for. -/
  | breakdown
  deriving DecidableEq

/-- What comes back for a call. -/
inductive Reply where
  /-- A response, with the cookie headers one by one if the transport keeps them apart. -/
  | response (status : Int) (headers : Headers) (text : String)
      (cookieHeaders : Option (List String)) (elapsed : Nat)
  /-- A failure with its message. -/
  | failure (failure : Failure) (message : String)
  deriving DecidableEq

/-- What is seen of a reply. -/
structure Outcome where
  status : Int := 0
  headers : Headers := []
  /-- The JSON value of the response text, or else the text. -/
  body : Value := .null
  /-- The error that the call failed with. -/
  error : Option String := none
  text : String := ""
  cookieHeaders : List String := []
  /-- The time until the response, in milliseconds. -/
  elapsed : Nat := 0

namespace Outcome

/-- Whether another attempt may help: the call failed, or the server did. -/
def isFailed (outcome : Outcome) : Bool :=
  outcome.error.isSome || 500 ≤ outcome.status

/-- The first cookie header of a response that keeps its headers in a table. -/
def mergedCookieHeader (headers : Headers) : List String :=
  match List.find? (fun header => Text.lowercased header.1 == "set-cookie") headers with
  | some header => [header.2]
  | none => []

/-- The outcome of a response, whose text is read in the room that there is. -/
def ofResponse (room : Nat) (status : Int) (headers : Headers) (text : String)
    (cookieHeaders : Option (List String)) (elapsed : Nat) : Except Fault Outcome := do
  return { status, headers, text, elapsed
           body := (← Value.read room text).getD (.string text)
           cookieHeaders := cookieHeaders.getD (mergedCookieHeader headers) }

/-- The message of a failed call. -/
def failureMessage (failure : Failure) (message : String) (timeout : Option Seconds) : String :=
  match failure with
  | .timeout => "Request timed out after " ++ (timeout.map Seconds.text).getD "None" ++ "s"
  | .connection => "Connection error: " ++ message
  | .request | .breakdown => "Request failed: " ++ message

/-- The outcome of a reply to a call with a timeout. A breakdown is a fault. -/
def ofReply (room : Nat) (timeout : Option Seconds) : Reply → Except Fault Outcome
  | .response status headers text cookieHeaders elapsed =>
    ofResponse room status headers text cookieHeaders elapsed
  | .failure .breakdown _ => .error .transport
  | .failure failure message => .ok { error := some (failureMessage failure message timeout) }

end Outcome

/-- The call of a request. A multipart form replaces its content type, and empty bytes are no
data. -/
def Call.make (method url : String) (headers : Option Headers) (payload : Payload)
    (timeout : Option Seconds) : Call :=
  let call (headers : Option Headers) (data : Option ByteArray) (parts : Option (List Part)) :=
    { method := Text.uppercased method, url, headers, timeout, data, parts : Call }
  match payload with
  | .form parts => call (some ((headers.getD []).without "content-type")) none (some parts)
  | .text s => call headers (some s.toUTF8) none
  | .bytes content => call headers (if content.isEmpty then none else some content) none
  | .nothing => call headers none none

end RequestScript
