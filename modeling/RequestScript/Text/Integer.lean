import RequestScript.Fault
import RequestScript.Text.Numeral

/-!
# Integers as texts

An integer is written in decimal, unless that takes more digits than a numeral may have.
-/

namespace RequestScript.Text

/-- Whether an integer has too many digits to be written. -/
def isTooLong (n : Int) : Bool :=
  Nat.pow 10 digitLimit ≤ n.natAbs

/-- The text of an integer. -/
def integerText (n : Int) : Except Fault String :=
  if isTooLong n then .error .numeralTooLong else .ok (String.ofList (decimalInt n))

end RequestScript.Text
