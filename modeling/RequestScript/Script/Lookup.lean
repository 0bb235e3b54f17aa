import RequestScript.Dice
import RequestScript.Script.Directive

/-!
# References between requests

Requests refer to each other by identifier. A reference means the first request with that
identifier; references to no request, and identifiers of several requests, can be listed.
-/

namespace RequestScript

namespace Request

/-- The first request with an identifier. -/
def find? (requests : List Request) (id : String) : Option Request :=
  List.find? (fun request => request.id == some id) requests

/-- The requests with the identifiers that they refer to and that no request has. -/
def missingReferences (requests : List Request) : List (Request × String) :=
  requests.flatMap fun request =>
    (request.pre.filter fun id => (find? requests id).isNone).map (request, ·)

/-- The identifiers in the order of their first occurrence. -/
def ids (requests : List Request) : List String :=
  Directive.dedupe (requests.filterMap (·.id))

/-- The requests with an identifier. -/
def withId (requests : List Request) (id : String) : List Request :=
  requests.filter fun request => request.id == some id

/-- The identifiers of several requests, with those requests. -/
def duplicates (requests : List Request) : List (String × List Request) :=
  ((ids requests).map fun id => (id, withId requests id)).filter (1 < ·.2.length)

/-- The request that an identifier or a name selects, the identifier first; without either it is
the first request. An empty text selects as if it were absent. -/
def select? (requests : List Request) (id name : Option String) : Option Request :=
  match id.filter (!·.isEmpty), name.filter (!·.isEmpty) with
  | some id, _ => find? requests id
  | none, some name => List.find? (fun request => request.name == some name) requests
  | none, none => requests.head?

/-- The characters of identifiers. -/
def idAlphabet : List Char :=
  "abcdefghijklmnopqrstuvwxyzABCDEFGHIJKLMNOPQRSTUVWXYZ0123456789".toList

/-- A random identifier that is not taken, or the last candidate when the attempts run out. -/
def drawId (taken : List String) : Nat → Chance String
  | 0 => return String.ofList (← Chance.characters idAlphabet Directive.idLength)
  | attempts + 1 => do
    let candidate := String.ofList (← Chance.characters idAlphabet Directive.idLength)
    if taken.contains candidate then drawId taken attempts else return candidate

/-- A random identifier that is not taken. There are as many attempts as identifiers. -/
def freshId (taken : List String) : Chance String :=
  drawId taken (Nat.pow 62 Directive.idLength)

end Request

end RequestScript
