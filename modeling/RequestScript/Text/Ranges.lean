/-!
# Code point ranges

Character classes that no short rule describes are tables of closed ranges of code points.
-/

namespace RequestScript.Text

/-- A character class, given by closed ranges of code points. -/
abbrev Ranges := List (Nat × Nat)

/-- Whether a character lies in one of the ranges. -/
def inRanges (ranges : Ranges) (c : Char) : Bool :=
  ranges.any fun range => range.1 ≤ c.toNat && c.toNat ≤ range.2

/-- What holds of the characters with small codes can be looked up one by one. -/
theorem of_toNat_lt {limit : Nat} {P : Char → Prop} (hall : ∀ code < limit, P (Char.ofNat code))
    {c : Char} (hc : c.toNat < limit) : P c := by
  have hcode := hall c.toNat hc
  rwa [Char.ofNat_toNat] at hcode

end RequestScript.Text
