import Mathlib.Algebra.Order.Ring.Nat
import Mathlib.Tactic.Ring
import RequestScript.Double

/-!
# Nearest doubles

The code nearest to a quotient depends on the quotient alone, and a magnitude is nearest to itself.
An integer has no nearest double from the middle between the greatest finite double and the power of
two above it on.
-/

namespace RequestScript.Double

/-- The magnitude from which on an integer is too large to be a double: the middle between the
greatest finite magnitude and the power of two above it. -/
def overflow : Nat := (Nat.pow 2 54 - 1) * Nat.pow 2 970

theorem one_lt_overflow : 1 < overflow := by
  obtain ⟨great, hgreat⟩ : ∃ exponent, exponent = 970 := ⟨_, rfl⟩
  have hpower : 0 < 2 ^ great := Nat.two_pow_pos great
  rw [overflow, ← hgreat, Nat.pow_eq, Nat.pow_eq]
  omega

/-! ## Rounding -/

/-- A quotient is rounded down where less than half of the divisor is left, and up where more is. -/
theorem roundQuotient_cases (num den : Nat) :
    roundQuotient num den = num / den ∧ 2 * (num % den) ≤ den ∨
      roundQuotient num den = num / den + 1 ∧ den ≤ 2 * (num % den) := by
  unfold roundQuotient
  dsimp only
  split
  · next hdown =>
    simp only [Bool.or_eq_true, Bool.and_eq_true, decide_eq_true_eq, beq_iff_eq] at hdown
    exact .inl ⟨rfl, by omega⟩
  · next hup =>
    simp only [Bool.or_eq_true, Bool.and_eq_true, decide_eq_true_eq, beq_iff_eq] at hup
    exact .inr ⟨rfl, by omega⟩

/-- A half is rounded up from an odd quotient. -/
theorem roundQuotient_of_odd {num den : Nat} (hodd : num / den % 2 = 1)
    (hhalf : den ≤ 2 * (num % den)) : roundQuotient num den = num / den + 1 := by
  unfold roundQuotient
  dsimp only
  rw [if_neg]
  simp only [Bool.or_eq_true, Bool.and_eq_true, decide_eq_true_eq, beq_iff_eq]
  omega

theorem roundQuotient_mul_right (num den : Nat) {factor : Nat} (hfactor : 0 < factor) :
    roundQuotient (num * factor) (den * factor) = roundQuotient num den := by
  have hleft : 2 * (num % den * factor) = 2 * (num % den) * factor := by rw [Nat.mul_assoc]
  have hless : 2 * (num % den) * factor < den * factor ↔ 2 * (num % den) < den :=
    Nat.mul_lt_mul_right hfactor
  have hsame : 2 * (num % den) * factor = den * factor ↔ 2 * (num % den) = den :=
    Nat.mul_left_inj (by omega)
  unfold roundQuotient
  dsimp only
  rw [Nat.mul_div_mul_right _ _ hfactor, Nat.mul_mod_mul_right, hleft]
  simp only [hless, beq_eq_decide, hsame]

/-- A multiple is its own rounding. -/
theorem roundQuotient_mul_self (quotient : Nat) {den : Nat} (hden : 0 < den) :
    roundQuotient (quotient * den) den = quotient := by
  have hdiv : quotient * den / den = quotient := Nat.mul_div_cancel _ hden
  rcases roundQuotient_cases (quotient * den) den with ⟨hround, _⟩ | ⟨_, hhalf⟩
  · rw [hround, hdiv]
  · rw [Nat.mul_mod_left] at hhalf
    omega

/-- Just below the next power of two it takes half a unit to be rounded up to it. -/
theorem last_range (num : Nat) {unit : Nat} (hunit : 0 < unit)
    (hbelow : num / (2 * unit) < 2 ^ 53) :
    2 ^ 53 ≤ roundQuotient num (2 * unit) ↔ (2 ^ 54 - 1) * unit ≤ num := by
  have hrounded := roundQuotient_cases num (2 * unit)
  have hodd := @roundQuotient_of_odd num (2 * unit)
  have hdivision := Nat.div_add_mod num (2 * unit)
  have hremainder := Nat.mod_lt num (show 0 < 2 * unit by omega)
  generalize num / (2 * unit) = quotient at *
  generalize num % (2 * unit) = rest at *
  constructor
  · intro hnext
    have hquotient : quotient = 2 ^ 53 - 1 := by omega
    subst hquotient
    omega
  · intro hnum
    have hquotient : quotient = 2 ^ 53 - 1 := by
      by_contra hne
      have hle : quotient ≤ 2 ^ 53 - 2 := by omega
      have hmul := Nat.mul_le_mul_left (2 * unit) hle
      omega
    subst hquotient
    have hround := hodd (by omega) (by omega)
    omega

/-! ## Codes -/

/-- Only the value of a quotient counts. -/
theorem nearestCode_mul_right (num den : Nat) {factor : Nat} (hfactor : 0 < factor) :
    nearestCode (num * factor) (den * factor) = nearestCode num den := by
  unfold nearestCode
  dsimp only
  rw [Nat.mul_div_mul_right _ _ hfactor, Nat.mul_right_comm den factor,
    roundQuotient_mul_right _ _ hfactor]

/-- The code of a whole number, by the power of two that it is divided by. -/
theorem nearestCode_one (num : Nat) : nearestCode num 1 =
    (num.log2 - 52) * 2 ^ 52 + roundQuotient num (2 ^ (num.log2 - 52)) := by
  simp only [nearestCode, Nat.pow_eq, Nat.div_one, Nat.one_mul]

/-- The magnitude of a code is nearest to itself. -/
theorem nearestCode_units (code : Nat) : nearestCode (units code) 1 = code := by
  have hcode : 2 ^ 52 * (code / 2 ^ 52) + code % 2 ^ 52 = code := Nat.div_add_mod code (2 ^ 52)
  have hrest : code % 2 ^ 52 < 2 ^ 52 := Nat.mod_lt _ (by decide)
  by_cases hsmall : code < 2 ^ 52
  · have hunits : units code = code := by
      rw [units, significand, scale, Nat.pow_eq, if_pos hsmall, Nat.div_eq_of_lt hsmall]
      exact Nat.mul_one code
    have hshift : code.log2 - 52 = 0 := by
      rcases Nat.eq_zero_or_pos code with rfl | hpos
      · decide
      · have hlog := (Nat.log2_lt (by omega)).mpr hsmall
        omega
    have hround : roundQuotient code 1 = code := by
      simpa using roundQuotient_mul_self code Nat.one_pos
    rw [hunits, nearestCode_one, hshift, pow_zero, hround, Nat.zero_mul, Nat.zero_add]
  · have hpos : 0 < code / 2 ^ 52 := Nat.div_pos (by omega) (by decide)
    obtain ⟨rest, hmod⟩ : ∃ rest, code % 2 ^ 52 = rest := ⟨_, rfl⟩
    obtain ⟨scale, hscale⟩ : ∃ scale, code / 2 ^ 52 = scale + 1 := ⟨code / 2 ^ 52 - 1, by omega⟩
    rw [hmod, hscale] at hcode
    rw [hmod] at hrest
    have hunits : units code = (2 ^ 52 + rest) * 2 ^ scale := by
      rw [units, significand, Double.scale, Nat.pow_eq, if_neg hsmall, hmod, hscale,
        Nat.add_sub_cancel, Nat.pow_eq]
    have hpower : 0 < 2 ^ scale := Nat.two_pow_pos scale
    have hlog : ((2 ^ 52 + rest) * 2 ^ scale).log2 = 52 + scale := by
      have hne : (2 ^ 52 + rest) * 2 ^ scale ≠ 0 := (Nat.mul_pos (by omega) hpower).ne'
      rw [Nat.log2_eq_iff hne]
      constructor
      · rw [pow_add]
        exact Nat.mul_le_mul_right _ (by omega)
      · have hdouble : (2 : Nat) ^ (52 + scale + 1) = (2 ^ 52 + 2 ^ 52) * 2 ^ scale := by ring
        rw [hdouble]
        exact Nat.mul_lt_mul_of_pos_right (by omega) hpower
    have hshift : 52 + scale - 52 = scale := by omega
    rw [hunits, nearestCode_one, hlog, hshift, roundQuotient_mul_self _ hpower]
    omega

/-- A whole number is beyond all codes from the middle between the greatest magnitude and the next
power of two on. The exponent stays a variable, so that its power is not computed. -/
theorem codes_le_nearestCode_iff (num : Nat) {exponent : Nat} (hexponent : exponent = 2044) :
    codes ≤ nearestCode num 1 ↔ (Nat.pow 2 54 - 1) * Nat.pow 2 exponent ≤ num := by
  rw [Nat.pow_eq, Nat.pow_eq]
  have hunit : 0 < 2 ^ exponent := Nat.two_pow_pos exponent
  rcases Nat.eq_zero_or_pos num with rfl | hpos
  · have hcode : nearestCode 0 1 = 0 := by decide
    rw [hcode, codes, Nat.pow_eq]
    omega
  have hlow : 2 ^ num.log2 ≤ num := Nat.log2_self_le (by omega)
  have hhigh : num < 2 ^ (num.log2 + 1) := Nat.lt_log2_self
  rw [nearestCode_one, codes, Nat.pow_eq]
  generalize num.log2 = log at hlow hhigh ⊢
  have hpower : 0 < 2 ^ (log - 52) := Nat.two_pow_pos _
  have hbelow : num / 2 ^ (log - 52) < 2 ^ 53 := by
    rw [Nat.div_lt_iff_lt_mul hpower, ← Nat.pow_add]
    exact hhigh.trans_le (Nat.pow_le_pow_right (by decide) (by omega))
  have habove : 52 ≤ log → 2 ^ 52 ≤ num / 2 ^ (log - 52) := by
    intro hlog
    rw [Nat.le_div_iff_mul_le hpower, ← Nat.pow_add]
    exact (Nat.pow_le_pow_right (by decide) (by omega)).trans hlow
  have hrounded := roundQuotient_cases num (2 ^ (log - 52))
  -- Only in the last range of magnitudes does the rounding decide.
  rcases Nat.lt_trichotomy log (exponent + 53) with hlog | hlog | hlog
  · have hbound : (2 : Nat) ^ (log + 1) ≤ 2 ^ 53 * 2 ^ exponent := by
      rw [← Nat.pow_add]
      exact Nat.pow_le_pow_right (by decide) (by omega)
    have hround : roundQuotient num (2 ^ (log - 52)) ≤ 2 ^ 53 := by omega
    constructor <;> intro <;> omega
  · have hshift : log - 52 = exponent + 1 := by omega
    have hdouble : (2 : Nat) ^ (log - 52) = 2 * 2 ^ exponent := by
      rw [hshift, Nat.pow_succ']
    have hquotient := habove (by omega)
    rw [hdouble] at hrounded hquotient hbelow ⊢
    rw [← last_range num hunit hbelow, hshift]
    omega
  · have hbound : (2 : Nat) ^ 54 * 2 ^ exponent ≤ 2 ^ log := by
      rw [← Nat.pow_add]
      exact Nat.pow_le_pow_right (by decide) (by omega)
    have hquotient := habove (by omega)
    have hround : 2 ^ 52 ≤ roundQuotient num (2 ^ (log - 52)) := by omega
    constructor <;> intro <;> omega

theorem ofUnits_of_lt {negative : Bool} {num den : Nat} (h : nearestCode num den < codes) :
    ofUnits negative num den = .finite negative ⟨nearestCode num den, h⟩ := by
  rw [ofUnits, dif_pos h]

theorem ofUnits_of_le {negative : Bool} {num den : Nat} (h : codes ≤ nearestCode num den) :
    ofUnits negative num den = .infinite negative := by
  rw [ofUnits, dif_neg (Nat.not_lt.mpr h)]

theorem finite?_ofUnits_eq_none_iff {negative : Bool} {num den : Nat} :
    (ofUnits negative num den).finite? = none ↔ codes ≤ nearestCode num den := by
  rcases Nat.lt_or_ge (nearestCode num den) codes with hless | hle
  · rw [ofUnits_of_lt hless]
    exact ⟨nofun, fun hle => absurd hless (Nat.not_lt.mpr hle)⟩
  · rw [ofUnits_of_le hle]
    exact ⟨fun _ => hle, fun _ => rfl⟩

/-- An integer has no nearest double where its magnitude is too large, and only there. -/
theorem ofInt?_eq_none_iff {n : Int} : ofInt? n = none ↔ overflow ≤ n.natAbs := by
  -- The exponent of the bound becomes a variable as well.
  obtain ⟨great, hgreat⟩ : ∃ exponent, exponent = 970 := ⟨_, rfl⟩
  have hsum : great + unitExponent = 2044 := by rw [hgreat, unitExponent]
  have hoverflow : overflow = (Nat.pow 2 54 - 1) * Nat.pow 2 great := by rw [overflow, hgreat]
  have hpower : Nat.pow 2 (great + unitExponent) = Nat.pow 2 great * Nat.pow 2 unitExponent :=
    Nat.pow_add 2 great unitExponent
  have hpos : 0 < Nat.pow 2 unitExponent := Nat.two_pow_pos unitExponent
  rw [ofInt?, ofQuotient, finite?_ofUnits_eq_none_iff, codes_le_nearestCode_iff _ hsum, hoverflow,
    unitsPerOne, hpower, ← Nat.mul_assoc]
  exact Nat.mul_le_mul_right_iff hpos

end RequestScript.Double
