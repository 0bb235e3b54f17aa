import RequestScript.Double.Decimal
import RequestScript.Table
import RequestScript.Text.Integer

/-!
# JSON values

A number written without fraction and exponent is an integer of any size, every other number is
a double. The names of an object are distinct and ordered.
-/

namespace RequestScript

/-- A JSON value. -/
inductive Value where
  | null
  | bool (b : Bool)
  | int (n : Int)
  | double (x : Double)
  | string (s : String)
  | array (items : List Value)
  | object (fields : List (String × Value))
  deriving Inhabited

namespace Value

/-- The fields of an object. -/
def fields? : Value → Option (Table Value)
  | .object fields => some fields
  | _ => none

/-- Whether a value counts as given: `null`, false, zeros and empty values do not. -/
def isGiven : Value → Bool
  | .null => false
  | .bool b => b
  | .int n => n != 0
  | .double x => x.isNan || x.rank != 0
  | .string s => !s.isEmpty
  | .array items => !items.isEmpty
  | .object fields => !fields.isEmpty

mutual

/-- How deeply arrays and objects are nested in a value. -/
def depth : Value → Nat
  | .array items => depthOfItems items + 1
  | .object fields => depthOfFields fields + 1
  | _ => 0
termination_by structural value => value

/-- The greatest depth of items. -/
def depthOfItems : List Value → Nat
  | [] => 0
  | item :: rest => max item.depth (depthOfItems rest)
termination_by structural items => items

/-- The greatest depth of the values of fields. -/
def depthOfFields : List (String × Value) → Nat
  | [] => 0
  | field :: rest => max (depthOfField field) (depthOfFields rest)
termination_by structural fields => fields

/-- The depth of the value of a field. -/
def depthOfField : String × Value → Nat
  | (_, value) => value.depth
termination_by structural field => field

end

mutual

/-- Whether every integer in a value has few enough digits to be written. -/
def isWritable : Value → Bool
  | .int n => !Text.isTooLong n
  | .array items => areWritable items
  | .object fields => areFieldsWritable fields
  | _ => true
termination_by structural value => value

/-- Whether every integer in items can be written. -/
def areWritable : List Value → Bool
  | [] => true
  | item :: rest => item.isWritable && areWritable rest
termination_by structural items => items

/-- Whether every integer in the values of fields can be written. -/
def areFieldsWritable : List (String × Value) → Bool
  | [] => true
  | field :: rest => isFieldWritable field && areFieldsWritable rest
termination_by structural fields => fields

/-- Whether every integer in the value of a field can be written. -/
def isFieldWritable : String × Value → Bool
  | (_, value) => value.isWritable
termination_by structural field => field

end

/-- An object with string values. -/
def ofStrings (table : Table String) : Value :=
  .object (table.mapValues .string)

end Value

end RequestScript
