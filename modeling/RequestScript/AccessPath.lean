import RequestScript.Datum

/-!
# Access paths

An access path names a place inside a JSON value: keys joined by dots, with list positions in
brackets, such as `items[0].id`. A key that is a numeral also names a list position. Empty parts
are skipped.
-/

namespace RequestScript

open Text

/-- One step of an access path. -/
inductive AccessStep where
  /-- A field of an object, or a list position written as a numeral. -/
  | key (name : String)
  /-- A list position in brackets. -/
  | index (position : Nat)
  deriving DecidableEq

namespace AccessPath

/-- The digit texts of the brackets that a text consists of, at least one. -/
def brackets? : Nat → List Char → Option (List (List Char))
  | 0, _ => none
  | fuel + 1, '[' :: rest =>
    let digits := rest.takeWhile isDigit
    if digits.isEmpty then none
    else match rest.drop digits.length with
      | [']'] => some [digits]
      | ']' :: more => (brackets? fuel more).map (digits :: ·)
      | _ => none
  | _ + 1, _ => none

/-- The number that a text of digits denotes. -/
def position (digits : List Char) : Except Fault Nat :=
  match readNat? digits with
  | some n => .ok n
  | none => .error .numeralTooLong

/-- The steps of one part between dots. A part that does not end in well-formed brackets is a
key as a whole. -/
def stepsOfPart (part : List Char) : Except Fault (List AccessStep) :=
  let base := part.takeWhile (· != '[')
  let rest := dropFinalLineFeed (part.drop base.length)
  match brackets? (rest.length + 1) rest with
  | some groups => do
    let positions ← groups.mapM position
    let first := if base.isEmpty then [] else [AccessStep.key (String.ofList base)]
    return first ++ positions.map .index
  | none => .ok [.key (String.ofList part)]

/-- The steps that a path text stands for. -/
def steps (path : String) : Except Fault (List AccessStep) := do
  let parts := (pieces '.' (trim path.toList)).filter (!·.isEmpty)
  return (← parts.mapM stepsOfPart).flatten

/-- The list position that a key stands for, if it is a numeral. -/
def positionOfKey (name : String) : Except Fault (Option Nat) :=
  let cs := dropFinalLineFeed name.toList
  if isAll isDigit cs then (position cs).map some else .ok none

/-- The list position that a step stands for. -/
def positionOf : AccessStep → Except Fault (Option Nat)
  | .index n => .ok (some n)
  | .key name => positionOfKey name

/-- One step down from a value. -/
def stepInto (value : Value) (step : AccessStep) : Except Fault (Option Value) :=
  match value, step with
  | .object fields, .key name => .ok (Table.get? fields name)
  | .array items, step => return (← positionOf step).bind (items[·]?)
  | _, _ => .ok none

/-- The value that the steps lead to. Nothing follows a step that leads nowhere. -/
def walk (value : Value) : List AccessStep → Except Fault (Option Value)
  | [] => .ok (some value)
  | step :: rest => do
    match ← stepInto value step with
    | some next => walk next rest
    | none => return none

/-- The datum that the steps lead to from a datum. -/
def walkDatum (datum : Datum) (steps : List AccessStep) : Except Fault Datum :=
  match datum, steps with
  | datum, [] => .ok datum
  | .json value, steps => return .ofOption (← walk value steps)
  | _, _ => .ok .absent

/-- The datum at a path. -/
def get (datum : Datum) (path : String) : Except Fault Datum := do
  walkDatum datum (← steps path)

/-- The datum at a path into a response body; a leading `body` is left out. -/
def extract (datum : Datum) (path : String) : Except Fault Datum :=
  let cs := trim path.toList
  if cs = "body".toList then .ok datum
  else match dropStart? "body.".toList cs with
    | some rest => get datum (String.ofList rest)
    | none => get datum (String.ofList cs)

end AccessPath

end RequestScript
