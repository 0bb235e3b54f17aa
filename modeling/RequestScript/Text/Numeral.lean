import RequestScript.Text.Blank
import RequestScript.Text.Digit

/-!
# Integer numerals

Integers are written in the decimal digits of any script. A numeral of more than 4300 digits is
refused, whatever its value: reading one takes time quadratic in its length.
-/

namespace RequestScript.Text

/-- The number of digits from which on a decimal numeral is refused. -/
def digitLimit : Nat := 4300

/-- The number that a text of decimal digits denotes. -/
def natOfDigits (cs : List Char) : Nat :=
  cs.foldl (fun n c => 10 * n + digitValue c) 0

/-- The number that a text of decimal digits denotes, unless it has too many of them. -/
def readNat? (cs : List Char) : Option Nat :=
  if cs.length ≤ digitLimit then some (natOfDigits cs) else none

/-- A blank as it may surround a numeral; the information separators may not. -/
def isNumeralBlank (c : Char) : Bool :=
  isBlank c && !(0x1c ≤ c.toNat && c.toNat ≤ 0x1f)

/-- A text without the blanks that may surround a numeral. -/
def trimNumeral (cs : List Char) : List Char :=
  ((cs.dropWhile isNumeralBlank).reverse.dropWhile isNumeralBlank).reverse

/-- The digits of a digit text in which single underscores may stand between digits. -/
def groupedDigits? : List Char → Option (List Char)
  | [] => none
  | [c] => if isDigit c then some [c] else none
  | c :: '_' :: rest => if isDigit c then (groupedDigits? rest).map (c :: ·) else none
  | c :: rest => if isDigit c then (groupedDigits? rest).map (c :: ·) else none

/-- A sign, if there is one, as "is it a minus", and the text after it. -/
def takeSign : List Char → Bool × List Char
  | '-' :: rest => (true, rest)
  | '+' :: rest => (false, rest)
  | cs => (false, cs)

/-- The integer that a numeral denotes: blanks around it, a sign, leading zeros and single
underscores between digits are allowed. -/
def readInt? (cs : List Char) : Option Int := do
  let (negative, body) := takeSign (trimNumeral cs)
  let digits ← groupedDigits? body
  let n ← readNat? digits
  return if negative then -(n : Int) else n

/-- The value of a hexadecimal digit of either case. -/
def hexDigitValue? (c : Char) : Option Nat :=
  if '0' ≤ c && c ≤ '9' then some (c.toNat - 0x30)
  else if 'a' ≤ c && c ≤ 'f' then some (c.toNat - 0x57)
  else if 'A' ≤ c && c ≤ 'F' then some (c.toNat - 0x37)
  else none

/-- The decimal numeral of a natural number. -/
def decimal (n : Nat) : List Char :=
  Nat.toDigits 10 n

/-- The decimal numeral of an integer. -/
def decimalInt (n : Int) : List Char :=
  if n < 0 then '-' :: decimal n.natAbs else decimal n.natAbs

/-- The decimal numeral of a natural number with zeros in front up to the width. -/
def padded (width n : Nat) : List Char :=
  List.replicate (width - (decimal n).length) '0' ++ decimal n

end RequestScript.Text
