import RequestScript.Fault
import RequestScript.Text.Substitute
import RequestScript.Value

/-!
# References to process variables

The values of an environment file refer to variables of the process as `${NAME}` or `$NAME`. A
reference to a variable that is not set stays as it is written. Values that are nested too deeply
are not searched for references.
-/

namespace RequestScript.Reference

open Text

/-- Whether a character may start a bare name. -/
def isNameStart (c : Char) : Bool :=
  c.isAlpha || c == '_'

/-- Whether a character may stand in a bare name. -/
def isNameChar (c : Char) : Bool :=
  c.isAlphanum || c == '_'

/-- The name of the reference at the start of a text, and the text after the reference. -/
def name? : List Char → Option (List Char × List Char)
  | '$' :: '\x7b' :: rest =>
    let name := rest.takeWhile (· != '\x7d')
    match rest.drop name.length with
    | _ :: after => if name.isEmpty then none else some (name, after)
    | [] => none
  | '$' :: c :: rest =>
    if isNameStart c then
      let more := rest.takeWhile isNameChar
      some (c :: more, rest.drop more.length)
    else none
  | _ => none

/-- What stands for the reference at the start of a text, and the text after it: the value of the
variable, or the reference itself. -/
def replacement? (values : Table String) (cs : List Char) :
    Option (List Char × List Char) :=
  (name? cs).map fun (name, after) =>
    match Table.get? values (String.ofList name) with
    | some value => (value.toList, after)
    | none => (cs.take (cs.length - after.length), after)

/-- A text with each reference to a variable that is set replaced. -/
def expandText (values : Table String) (text : String) : String :=
  String.ofList (substitute (replacement? values) text.toList)

mutual

/-- A value with the references in its strings replaced; names of fields stay. -/
def expand (values : Table String) : Value → Value
  | .string s => .string (expandText values s)
  | .array items => .array (expandItems values items)
  | .object fields => .object (expandFields values fields)
  | value => value
termination_by structural value => value

/-- Items with the references in their strings replaced. -/
def expandItems (values : Table String) : List Value → List Value
  | [] => []
  | item :: rest => expand values item :: expandItems values rest
termination_by structural items => items

/-- Fields with the references in their strings replaced. -/
def expandFields (values : Table String) : List (String × Value) → List (String × Value)
  | [] => []
  | field :: rest => expandField values field :: expandFields values rest
termination_by structural fields => fields

/-- A field with the references in its strings replaced. -/
def expandField (values : Table String) : String × Value → String × Value
  | (name, value) => (name, expand values value)
termination_by structural field => field

end

/-- How deeply arrays and objects may be nested where references are replaced. -/
def depthLimit : Nat := 494

/-- A value with the references in its strings replaced, unless it is nested too deeply. -/
def expandWithin (values : Table String) (value : Value) : Except Fault Value :=
  if value.depth ≤ depthLimit then .ok (expand values value) else .error .tooDeep

/-- Variables with the references in their values replaced, unless these are nested too deeply. -/
def expandTable (values : Table String) (table : Table Value) : Except Fault (Table Value) :=
  if (Value.object table).depth ≤ depthLimit then .ok (expandFields values table)
  else .error .tooDeep

end RequestScript.Reference
