import RequestScript.Double.Decimal
import RequestScript.Fault
import RequestScript.Text.Radix
import RequestScript.Text.Split

/-!
# Numbers of configuration texts

Integers are written in base two, eight, ten, sixteen or sixty, and fractional numbers in base ten
or sixty. The digits may be grouped with underscores. In base sixty the digits are decimal numerals
with colons between them.
-/

namespace RequestScript.Yaml

open Text

/-- The sign of a number, as "is it a minus", and the rest of it, without underscores. It has at
least one character. -/
def signAndRest (cs : List Char) : Except Fault (Bool × List Char) :=
  let cs := cs.filter (· != '_')
  if cs.isEmpty then .error .emptyNumeral else .ok (takeSign cs)

/-- The integer that a text denotes in a base, whose mark may stand before the digits. -/
def integerInBase (base : Nat) (cs : List Char) : Except Fault Int :=
  let (negative, body) := takeSign (trimNumeral cs)
  match readMarked? base body with
  | some n => .ok (if negative then -(n : Int) else n)
  | none => .error .notANumeral

/-- The integer that a decimal numeral denotes. -/
def decimalInteger (cs : List Char) : Except Fault Int :=
  match readInt? cs with
  | some n => .ok n
  | none => .error .notANumeral

/-- The integer that a text without its sign denotes. -/
def magnitude (cs : List Char) : Except Fault Int :=
  match cs with
  | [] => .error .emptyNumeral
  | ['0'] => .ok 0
  | '0' :: 'b' :: digits => integerInBase 2 digits
  | '0' :: 'x' :: digits => integerInBase 16 digits
  | '0' :: _ => integerInBase 8 cs
  | _ =>
    if cs.contains ':' then do
      let digits ← (pieces ':' cs).mapM decimalInteger
      return digits.foldl (fun n digit => 60 * n + digit) 0
    else decimalInteger cs

/-- The integer that a scalar denotes. -/
def readInteger (cs : List Char) : Except Fault Int := do
  let (negative, body) ← signAndRest cs
  let n ← magnitude body
  return if negative then -n else n

/-- The double that a decimal numeral denotes. -/
def decimalDouble (cs : List Char) : Except Fault Double :=
  match Double.read? cs with
  | some x => .ok x
  | none => .error .notANumeral

/-- The sum of digits in base sixty, the last one first. Every product and every sum is rounded. -/
def sumSixtieths (power : Nat) (sum : Double) : List Double → Except Fault Double
  | [] => .ok sum
  | digit :: rest =>
    match Double.ofInt? power with
    | some weight => sumSixtieths (60 * power) (sum.add (digit.mul weight)) rest
    | none => .error .numberTooLarge

/-- The word for what is not a number. -/
def nanWord : List Char := ".nan".toList

/-- The double that a text without its sign denotes. -/
def doubleMagnitude (cs : List Char) : Except Fault Double :=
  let cs := cs.map Char.toLower
  if cs = ".inf".toList then .ok (.infinite false)
  else if cs = nanWord then .ok .nan
  else if cs.contains ':' then do
    let digits ← (pieces ':' cs).mapM decimalDouble
    sumSixtieths 1 (.zero false) digits.reverse
  else decimalDouble cs

/-- The double that a scalar denotes. -/
def readDouble (cs : List Char) : Except Fault Double := do
  let (negative, body) ← signAndRest cs
  let x ← doubleMagnitude body
  return if negative then x.neg else x

/-- Whether a scalar is the word for what is not a number, with a sign or without. -/
def isNanWord (cs : List Char) : Bool :=
  match signAndRest cs with
  | .ok (_, body) => body.map Char.toLower = nanWord
  | .error _ => false

end RequestScript.Yaml
