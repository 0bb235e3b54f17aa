import RequestScript.Double
import RequestScript.Text.Numeral

/-!
# Decimal texts of doubles

The shortest text of a double has the fewest digits that read back as it, and of those the
nearest to it. It is positional from `1e-4` up to `1e16`, always with a fraction, and otherwise
has an exponent with a sign and two digits or more. The text with a fixed number of places rounds
the exact value, a half to the even neighbour.
-/

namespace RequestScript.Double

open Text

/-- The number of decimal digits of a positive number. -/
def decimalLength (n : Nat) : Nat :=
  (decimal n).length

/-- The place of the decimal point of a magnitude: the power of ten just above it. -/
def pointOf (code : Nat) : Int :=
  (decimalLength (units code * Nat.pow 10 400 / unitsPerOne) : Int) - 400

/-- Whether `digits * 10 ^ exponent` reads as the magnitude. -/
def readsAs (code : Nat) (digits : Nat) (exponent : Int) : Bool :=
  match ofDecimal false digits exponent with
  | .finite _ read => read.val == code
  | _ => false

/-- The two neighbours of a magnitude on the grid of multiples of `10 ^ exponent`, the nearer
first; of two that are equally near the even one is first. -/
def gridNeighbours (code : Nat) (exponent : Int) : List Nat :=
  let num := units code * Nat.pow 10 (-exponent).toNat
  let den := unitsPerOne * Nat.pow 10 exponent.toNat
  let below := num / den
  if roundQuotient num den = below then [below, below + 1] else [below + 1, below]

/-- The first grid, from `length` digits on, on which a neighbour of the magnitude reads back. -/
def shortestFrom (code : Nat) (point : Int) (length : Nat) : Nat → Nat × Int
  | 0 => (units code * Nat.pow 5 unitExponent, -unitExponent)
  | tries + 1 =>
    let exponent := point - length
    match (gridNeighbours code exponent).find? (readsAs code · exponent) with
    | some digits => (digits, exponent)
    | none => shortestFrom code point (length + 1) tries

/-- The shortest decimal of a positive magnitude, as digits and a power of ten. -/
def shortest (code : Nat) : Nat × Int :=
  shortestFrom code (pointOf code) 1 17

/-- A decimal without the zeros at the end of its digits. -/
def dropZeros (digits : List Char) (exponent : Int) : List Char × Int :=
  let kept := (digits.reverse.dropWhile (· == '0')).reverse
  (kept, exponent + (digits.length - kept.length : Nat))

/-- An exponent with its sign and at least two digits. -/
def exponentText (exponent : Int) : List Char :=
  'e' :: (if exponent < 0 then '-' else '+') :: padded 2 exponent.natAbs

/-- The text of the decimal `0.digits * 10 ^ point`. -/
def layout (digits : List Char) (point : Int) : List Char :=
  if -4 < point && point ≤ 16 then
    if point ≤ 0 then '0' :: '.' :: List.replicate (-point).toNat '0' ++ digits
    else if digits.length ≤ point.toNat then
      digits ++ List.replicate (point.toNat - digits.length) '0' ++ ['.', '0']
    else digits.take point.toNat ++ '.' :: digits.drop point.toNat
  else
    match digits with
    | [] => []
    | [d] => d :: exponentText (point - 1)
    | d :: fraction => d :: '.' :: fraction ++ exponentText (point - 1)

/-- The shortest text of a magnitude. -/
def magnitudeText (code : Nat) : List Char :=
  if code = 0 then ['0', '.', '0']
  else
    let (digits, exponent) := shortest code
    let (kept, exponent) := dropZeros (decimal digits) exponent
    layout kept (exponent + kept.length)

/-- A text with a minus in front if it belongs to a negative number. -/
def signed (negative : Bool) (text : List Char) : List Char :=
  if negative then '-' :: text else text

/-- The shortest text of a double. -/
def text : Double → String
  | .nan => "nan"
  | .infinite negative => String.ofList (signed negative ['i', 'n', 'f'])
  | .finite negative code => String.ofList (signed negative (magnitudeText code))

/-- The text of a double with the given number of decimal places. -/
def fixedText (places : Nat) : Double → String
  | .finite negative code =>
    let scaled := roundQuotient (units code * Nat.pow 10 places) unitsPerOne
    let whole := decimal (scaled / Nat.pow 10 places)
    let fraction := if places = 0 then [] else '.' :: padded places (scaled % Nat.pow 10 places)
    String.ofList (signed negative (whole ++ fraction))
  | x => x.text

/-- The digits of an optionally present fraction or exponent part, as they are grouped. -/
def digitsOrNone? : List Char → Option (List Char)
  | [] => some []
  | cs => groupedDigits? cs

/-- The exponent that the text after an exponent mark denotes. -/
def exponentOf? (cs : List Char) : Option Int := do
  let (negative, body) := takeSign cs
  let digits ← groupedDigits? body
  return if negative then -(natOfDigits digits : Int) else natOfDigits digits

/-- The unsigned decimal that a text denotes: digits with an optional fraction, or a fraction
alone, and an optional exponent. -/
def unsignedDecimal? (cs : List Char) : Option (Nat × Int) := do
  let isMark (c : Char) : Bool := c == 'e' || c == 'E'
  let mantissa := cs.takeWhile (!isMark ·)
  let exponent ← match cs.dropWhile (!isMark ·) with
    | [] => some 0
    | _ :: rest => exponentOf? rest
  let whole := mantissa.takeWhile (· != '.')
  let fraction := (mantissa.dropWhile (· != '.')).drop 1
  if whole.isEmpty && fraction.isEmpty then none
  let wholeDigits ← digitsOrNone? whole
  let fractionDigits ← digitsOrNone? fraction
  return (natOfDigits (wholeDigits ++ fractionDigits), exponent - fractionDigits.length)

/-- The double that a numeral denotes: blanks around it, a sign, digits of any script with single
underscores between them, an exponent, and the words for the infinities and `nan` are allowed. -/
def read? (cs : List Char) : Option Double :=
  let (negative, body) := takeSign (trimNumeral cs)
  let word := String.ofList (body.map Char.toLower)
  if word = "inf" || word = "infinity" then some (.infinite negative)
  else if word = "nan" then some .nan
  else (unsignedDecimal? body).map fun (digits, exponent) => ofDecimal negative digits exponent

end RequestScript.Double
