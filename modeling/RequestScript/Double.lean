/-!
# Binary floating point

A finite double is a sign and a magnitude code, its bit pattern without the sign. Codes are
ordered as the magnitudes are, every code below the first infinite one is valid, and each
magnitude is a whole number of units, the smallest positive double `2 ^ -1074`. So every question
about doubles is a question about natural numbers.
-/

namespace RequestScript

/-- The number of finite magnitudes. -/
def Double.codes : Nat := 2047 * Nat.pow 2 52

/-- A double. -/
inductive Double where
  /-- Not a number. -/
  | nan
  /-- An infinity. -/
  | infinite (negative : Bool)
  /-- A finite number, zeros included. -/
  | finite (negative : Bool) (code : Fin Double.codes)
  deriving DecidableEq

namespace Double

/-- The exponent of the unit: so many halvings make it of one. Powers with this exponent are not
to be computed in proofs. -/
@[irreducible]
def unitExponent : Nat := 1074

/-- The number of units in one. -/
def unitsPerOne : Nat := Nat.pow 2 unitExponent

/-- The exponent of the power of two that a code's significand is multiplied by. -/
def scale (code : Nat) : Nat :=
  code / Nat.pow 2 52 - 1

/-- The significand of a code, with the hidden bit of a normal number. -/
def significand (code : Nat) : Nat :=
  if code < Nat.pow 2 52 then code else Nat.pow 2 52 + code % Nat.pow 2 52

/-- The magnitude of a code, in units. -/
def units (code : Nat) : Nat :=
  significand code * Nat.pow 2 (scale code)

/-- A quotient rounded to the nearest integer, a half to the even neighbour. -/
def roundQuotient (num den : Nat) : Nat :=
  let quotient := num / den
  let twice := 2 * (num % den)
  if twice < den || (twice == den && quotient % 2 == 0) then quotient else quotient + 1

/-- The code nearest to a quotient of units; it may lie beyond the finite codes. -/
def nearestCode (num den : Nat) : Nat :=
  let shift := (num / den).log2 - 52
  shift * Nat.pow 2 52 + roundQuotient num (den * Nat.pow 2 shift)

/-- The double nearest to a quotient of units. -/
def ofUnits (negative : Bool) (num den : Nat) : Double :=
  let code := nearestCode num den
  if h : code < codes then .finite negative ⟨code, h⟩ else .infinite negative

/-- The double nearest to a quotient. -/
def ofQuotient (negative : Bool) (num den : Nat) : Double :=
  ofUnits negative (num * unitsPerOne) den

/-- Zero. -/
def zero (negative : Bool) : Double :=
  .finite negative ⟨0, by decide⟩

/-- A double, unless it is an infinity. -/
def finite? : Double → Option Double
  | .infinite _ => none
  | x => some x

/-- The double nearest to an integer; one that is too large has none. -/
def ofInt? (n : Int) : Option Double :=
  (ofQuotient (n < 0) n.natAbs 1).finite?

/-- The double nearest to `digits * 10 ^ exponent`. Far outside the range of doubles the power
of ten is not computed. -/
def ofDecimal (negative : Bool) (digits : Nat) (exponent : Int) : Double :=
  if digits = 0 then zero negative
  else if 400 < exponent then .infinite negative
  else if exponent < -(digits.log2 + 400 : Int) then zero negative
  else if 0 ≤ exponent then ofQuotient negative (digits * Nat.pow 10 exponent.toNat) 1
  else ofQuotient negative digits (Nat.pow 10 (-exponent).toNat)

/-- Whether a double is not a number. -/
def isNan : Double → Bool
  | .nan => true
  | _ => false

/-- The value of a finite double, in units. -/
def signedUnits (negative : Bool) (code : Fin codes) : Int :=
  if negative then -(units code : Int) else units code

/-- The sign and code of a double as one integer; it orders all doubles but `nan`, and gives
both zeros the same place. -/
def rank : Double → Int
  | .nan => 0
  | .infinite negative => if negative then -(codes : Int) else codes
  | .finite negative code => if negative then -(code.val : Int) else code.val

/-- Whether one double is less than another; `nan` is less than nothing. -/
def lt (x y : Double) : Bool :=
  !x.isNan && !y.isNan && x.rank < y.rank

/-- Whether one double is at most another; `nan` is at most nothing. -/
def le (x y : Double) : Bool :=
  !x.isNan && !y.isNan && x.rank ≤ y.rank

/-- The double with the other sign. -/
def neg : Double → Double
  | .nan => .nan
  | .infinite negative => .infinite (!negative)
  | .finite negative code => .finite (!negative) code

/-- The sum. An exact zero is negative only as the sum of two negative zeros. -/
def add : Double → Double → Double
  | .nan, _ | _, .nan => .nan
  | .infinite a, .infinite b => if a = b then .infinite a else .nan
  | .infinite a, .finite .. => .infinite a
  | .finite .., .infinite b => .infinite b
  | .finite a x, .finite b y =>
    let sum := signedUnits a x + signedUnits b y
    if sum = 0 then zero (a && b) else ofUnits (sum < 0) sum.natAbs 1

/-- The difference. -/
def sub (x y : Double) : Double :=
  x.add y.neg

/-- The product. -/
def mul : Double → Double → Double
  | .nan, _ | _, .nan => .nan
  | .infinite a, .infinite b => .infinite (a != b)
  | .infinite a, .finite b y | .finite b y, .infinite a =>
    if y.val = 0 then .nan else .infinite (a != b)
  | .finite a x, .finite b y => ofUnits (a != b) (units x * units y) unitsPerOne

/-- The integer part of a double. An infinity and `nan` have none. -/
def truncate? : Double → Option Int
  | .finite negative code =>
    let magnitude := units code / unitsPerOne
    some (if negative then -(magnitude : Int) else magnitude)
  | _ => none

/-- The integer that a double is, if it is one. -/
def toInt? : Double → Option Int
  | .finite negative code =>
    if units code % unitsPerOne = 0 then
      let magnitude := units code / unitsPerOne
      some (if negative then -(magnitude : Int) else magnitude)
    else none
  | _ => none

/-- The integer nearest to a double, a half to the even neighbour. An infinity and `nan` have
none. -/
def round? : Double → Option Int
  | .finite negative code =>
    let magnitude := roundQuotient (units code) unitsPerOne
    some (if negative then -(magnitude : Int) else magnitude)
  | _ => none

/-- A thousandth of an integer; one that is too large has none. -/
def thousandth? (n : Int) : Option Double :=
  (ofQuotient (n < 0) n.natAbs 1000).finite?

end Double

end RequestScript
