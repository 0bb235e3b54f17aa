/-!
# Halves of characters

In UTF-16 a character beyond the first 65536 is written as two halves. A half alone is no
character; the replacement character stands for it.
-/

namespace RequestScript.Text

/-- Whether a UTF-16 unit is the first half of a pair. -/
def isHighHalf (unit : Nat) : Bool :=
  0xd800 ≤ unit && unit < 0xdc00

/-- Whether a UTF-16 unit is the second half of a pair. -/
def isLowHalf (unit : Nat) : Bool :=
  0xdc00 ≤ unit && unit < 0xe000

/-- The character that two halves make. -/
def joinHalves (high low : Nat) : Char :=
  Char.ofNat (0x10000 + (high - 0xd800) * 0x400 + (low - 0xdc00))

/-- The character with a code that stands alone. -/
def charAlone (code : Nat) : Char :=
  if isHighHalf code || isLowHalf code then '\ufffd' else Char.ofNat code

end RequestScript.Text
