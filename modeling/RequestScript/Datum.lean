import RequestScript.Fault
import RequestScript.Text.Radix
import RequestScript.Text.Split
import RequestScript.Value.Writer

/-!
# Data of a response

What is found at a place of a response is a JSON value, a byte string, or nothing at all, which
differs from the JSON value `null`. A datum has a text, as it is stored and compared, and a
number, as it is ordered; both follow the conventions of browsers.
-/

namespace RequestScript

open Text

namespace Value

/-- The text of a value: a string is its own text, an integral double is written as an integer,
and arrays and objects are compact JSON texts. -/
def text : Value → String
  | .null => "null"
  | .bool true => "true"
  | .bool false => "false"
  | .int n => String.ofList (decimalInt n)
  | .double x =>
    match x.toInt? with
    | some n => String.ofList (decimalInt n)
    | none => x.text
  | .string s => s
  | value => value.compact

/-- The number that an unsigned numeral with a radix mark denotes: `0x1F`, `0o17` or `0b11`. All
its digits are hexadecimal, which in base two lets the mark stand there twice, as in `0b0b11`. -/
def radixNumeral? : List Char → Option Nat
  | '0' :: mark :: digits => do
    let base ← radix? mark
    if digits.all fun c => (hexDigitValue? c).isSome then readMarked? base digits else none
  | _ => none

/-- The number that a decimal numeral without underscores denotes. -/
def decimalNumeral? (cs : List Char) : Option Double :=
  let (negative, body) := takeSign cs
  if body.contains '_' then none
  else (Double.unsignedDecimal? body).map fun (digits, exponent) =>
    .ofDecimal negative digits exponent

/-- The double nearest to an integer. -/
def doubleOfInt (n : Int) : Except Fault Double :=
  (Double.ofInt? n).elim (.error .numberTooLarge) .ok

/-- The number that a text denotes: nothing but blanks is zero, and what is no numeral is not a
number. -/
def numberOfText (s : String) : Except Fault Double :=
  let cs := trim s.toList
  if cs.isEmpty then .ok (.zero false)
  else match decimalNumeral? cs with
    | some x => .ok x
    | none =>
      match radixNumeral? cs with
      | some n => doubleOfInt n
      | none =>
        let (negative, body) := takeSign cs
        .ok (if body = "Infinity".toList then .infinite negative else .nan)

/-- The number of a value. -/
def number : Value → Except Fault Double
  | .null => .ok (.zero false)
  | .bool b => doubleOfInt (if b then 1 else 0)
  | .int n => doubleOfInt n
  | .double x => .ok x
  | .string s => numberOfText s
  | .array _ | .object _ => .ok .nan

/-- Whether a value is a number, or a text that denotes one. -/
def isNumber : Value → Except Fault Bool
  | .int _ | .double _ => .ok true
  | .string s =>
    if (trim s.toList).isEmpty then .ok false
    else (numberOfText s).map (!·.isNan)
  | _ => .ok false

/-- Whether a value is `null` or has no characters, items or fields. -/
def isEmpty : Value → Bool
  | .null => true
  | .string s => s.isEmpty
  | .array items => items.isEmpty
  | .object fields => fields.isEmpty
  | _ => false

end Value

/-- What a response offers at some place. -/
inductive Datum where
  /-- There is nothing at the place. -/
  | absent
  /-- A JSON value. -/
  | json (value : Value)
  /-- A byte string. -/
  | binary (data : List UInt8)
  deriving Inhabited

namespace Datum

/-- A JSON value, or nothing. -/
def ofOption : Option Value → Datum
  | some value => .json value
  | none => .absent

/-- A text. -/
def ofString (s : String) : Datum :=
  .json (.string s)

/-- The text of a datum. -/
def text : Datum → String
  | .absent => "undefined"
  | .json value => value.text
  | .binary data => String.ofList (quotedBytes data)

/-- Whether a datum has a text: integers with too many digits have none. -/
def hasText : Datum → Bool
  | .json value => value.isWritable
  | _ => true

/-- The number of a datum. -/
def number : Datum → Except Fault Double
  | .json value => value.number
  | _ => .ok .nan

/-- Whether a datum is a number, or a text that denotes one. -/
def isNumber : Datum → Except Fault Bool
  | .json value => value.isNumber
  | _ => .ok false

/-- Whether nothing, or nothing but an empty value, was found. -/
def isEmpty : Datum → Bool
  | .absent => true
  | .json value => value.isEmpty
  | .binary _ => false

/-- Whether something other than `null` was found. -/
def exists? : Datum → Bool
  | .absent | .json .null => false
  | _ => true

/-- The number of bytes of a datum as it is written: nothing for `null`, else the length of its
text in UTF-8. -/
def size : Datum → Nat
  | .absent | .json .null => 0
  | .json value => value.text.utf8ByteSize
  | .binary data => data.length

end Datum

end RequestScript
