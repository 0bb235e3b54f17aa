import RequestScript.Text.Numeral

/-!
# Numerals in other bases

Numerals in base sixteen, eight and two. A mark says the base: `0x`, `0o` or `0b`, in either case.
-/

namespace RequestScript.Text

/-- The base that the letter of a radix mark stands for. -/
def radix? (c : Char) : Option Nat :=
  if c = 'x' || c = 'X' then some 16
  else if c = 'o' || c = 'O' then some 8
  else if c = 'b' || c = 'B' then some 2
  else none

/-- The value of a digit: a decimal digit of any script, or a hexadecimal letter. -/
def radixDigitValue? (c : Char) : Option Nat :=
  (digitValue? c).orElse fun _ => hexDigitValue? c

/-- The number that a text of digits in a base denotes, if each digit belongs to the base. -/
def readDigits? (base : Nat) (cs : List Char) : Option Nat :=
  if cs.isEmpty then none
  else cs.foldlM (fun n c => do
    let digit ← radixDigitValue? c
    if digit < base then some (base * n + digit) else none) 0

/-- A text without the mark of a base, if it starts with that mark. -/
def dropRadixMark (base : Nat) : List Char → List Char
  | '0' :: mark :: digits => if radix? mark = some base then digits else '0' :: mark :: digits
  | digits => digits

/-- The number that a text of digits in a base denotes. The mark of the base may stand before
them. -/
def readMarked? (base : Nat) (cs : List Char) : Option Nat :=
  readDigits? base (dropRadixMark base cs)

end RequestScript.Text
