import Mathlib.Data.List.TakeWhile
import Mathlib.Tactic.Positivity
import RequestScript.Double.Decimal
import RequestScript.Proofs.Double.Nearest
import RequestScript.Proofs.Text.Numeral

/-!
# Decimals that denote doubles

A decimal denotes the double nearest to its quotient, also where the power of ten is not computed,
and moving a power of ten between digits and exponent changes nothing. So the shortest decimal of a
magnitude denotes it, without the zeros at its end as well.
-/

namespace RequestScript.Double

open Text

variable {negative : Bool}

/-! ## Quotients -/

/-- Equal quotients have the same nearest double. -/
theorem ofQuotient_congr {num den other by' : Nat} (hden : 0 < den) (hby : 0 < by')
    (h : num * by' = other * den) :
    ofQuotient negative num den = ofQuotient negative other by' := by
  have hunits : ∀ a b c : Nat, 0 < c → ofUnits negative (a * c) (b * c) = ofUnits negative a b := by
    intro a b c hc
    simp only [ofUnits, nearestCode_mul_right a b hc]
  rw [ofQuotient, ofQuotient, ← hunits _ den by' hby, ← hunits _ by' den hden,
    Nat.mul_right_comm num, h, Nat.mul_right_comm other, Nat.mul_comm by' den]

/-- A quotient of less than half a unit is nearest to zero. -/
theorem nearestCode_of_small {num den : Nat} (h : 2 * num < den) : nearestCode num den = 0 := by
  have hquotient : num / den = 0 := Nat.div_eq_of_lt (by omega)
  have hrest : num % den = num := Nat.mod_eq_of_lt (by omega)
  have hround : roundQuotient num den = 0 := by
    rcases roundQuotient_cases num den with ⟨hdown, -⟩ | ⟨-, hhalf⟩
    · rw [hdown, hquotient]
    · omega
  simp [nearestCode, hquotient, hround]

theorem two_pow_le_ten_pow (n : Nat) : 2 ^ (3 * n) ≤ 10 ^ n := by
  rw [pow_mul]
  exact Nat.pow_le_pow_left (by decide) n

/-- Beyond the greatest exponent every decimal but zero is infinite. -/
theorem ofQuotient_of_large {digits power : Nat} (hdigits : digits ≠ 0) (hpower : 400 < power) :
    ofQuotient negative (digits * 10 ^ power) 1 = .infinite negative := by
  obtain ⟨great, hgreat⟩ : ∃ exponent, exponent = 2044 := ⟨_, rfl⟩
  have hunit : unitExponent = 1074 := by rw [unitExponent]
  have hbound : (Nat.pow 2 54 - 1) * Nat.pow 2 great ≤ digits * 10 ^ power * 2 ^ unitExponent := by
    calc (Nat.pow 2 54 - 1) * Nat.pow 2 great
        ≤ 2 ^ 54 * 2 ^ great := Nat.mul_le_mul_right _ (Nat.sub_le _ _)
      _ = 2 ^ (54 + great) := (pow_add 2 54 great).symm
      _ ≤ 2 ^ (3 * power + unitExponent) := Nat.pow_le_pow_right (by decide) (by omega)
      _ = 2 ^ (3 * power) * 2 ^ unitExponent := pow_add 2 _ unitExponent
      _ ≤ digits * 10 ^ power * 2 ^ unitExponent :=
        Nat.mul_le_mul_right _ ((two_pow_le_ten_pow power).trans
          (Nat.le_mul_of_pos_left _ (Nat.pos_of_ne_zero hdigits)))
  rw [ofQuotient, unitsPerOne, Nat.pow_eq]
  exact ofUnits_of_le ((codes_le_nearestCode_iff _ hgreat).mpr hbound)

/-- Below the least exponent every decimal is zero. -/
theorem ofQuotient_of_tiny {digits power : Nat} (hpower : digits.log2 + 400 < power) :
    ofQuotient negative digits (10 ^ power) = zero negative := by
  have hunit : unitExponent = 1074 := by rw [unitExponent]
  have hsmall : 2 * (digits * 2 ^ unitExponent) < 10 ^ power := by
    have hdigits : digits < 2 ^ (digits.log2 + 1) := Nat.lt_log2_self
    have hscaled := Nat.mul_lt_mul_of_pos_right hdigits (Nat.two_pow_pos unitExponent)
    calc 2 * (digits * 2 ^ unitExponent)
        < 2 * (2 ^ (digits.log2 + 1) * 2 ^ unitExponent) := by omega
      _ = 2 ^ (digits.log2 + 2 + unitExponent) := by ring
      _ ≤ 2 ^ (3 * power) := Nat.pow_le_pow_right (by decide) (by omega)
      _ ≤ 10 ^ power := two_pow_le_ten_pow power
  have hcode : nearestCode (digits * 2 ^ unitExponent) (10 ^ power) = 0 :=
    nearestCode_of_small hsmall
  rw [ofQuotient, unitsPerOne, Nat.pow_eq, ofUnits]
  simp only [hcode]
  rfl

/-! ## Decimals -/

/-- A decimal denotes the double nearest to its quotient. -/
theorem ofDecimal_eq_ofQuotient {digits : Nat} (hdigits : digits ≠ 0) (exponent : Int) :
    ofDecimal negative digits exponent =
      ofQuotient negative (digits * 10 ^ exponent.toNat) (10 ^ (-exponent).toNat) := by
  unfold ofDecimal
  rw [if_neg hdigits]
  split
  · next hlarge =>
    have hden : (-exponent).toNat = 0 := by omega
    rw [hden, pow_zero, ofQuotient_of_large hdigits (by omega)]
  split
  · next htiny =>
    have hnum : exponent.toNat = 0 := by omega
    rw [hnum, pow_zero, Nat.mul_one, ofQuotient_of_tiny (by omega)]
  split
  · next hnonneg =>
    have hden : (-exponent).toNat = 0 := by omega
    rw [hden, pow_zero, Nat.pow_eq]
  · next hneg =>
    have hnum : exponent.toNat = 0 := by omega
    rw [hnum, pow_zero, Nat.mul_one, Nat.pow_eq]

/-- Zeros behind the digits of a decimal count as its exponent. -/
theorem ofDecimal_mul_pow (digits count : Nat) (exponent : Int) :
    ofDecimal negative (digits * 10 ^ count) exponent =
      ofDecimal negative digits (exponent + count) := by
  by_cases hdigits : digits = 0
  · simp [hdigits, ofDecimal]
  have hmore : digits * 10 ^ count ≠ 0 := Nat.mul_ne_zero hdigits (by positivity)
  rw [ofDecimal_eq_ofQuotient hmore, ofDecimal_eq_ofQuotient hdigits]
  have hexponents : count + exponent.toNat + (-(exponent + count)).toNat =
      (exponent + count).toNat + (-exponent).toNat := by omega
  have hpowers := congrArg (10 ^ ·) hexponents
  simp only [pow_add] at hpowers
  refine ofQuotient_congr (by positivity) (by positivity) ?_
  simp only [Nat.mul_assoc] at hpowers ⊢
  rw [hpowers]

/-- The sign of a decimal is the sign of the double that it denotes. -/
theorem ofDecimal_of_unsigned {digits : Nat} {exponent : Int} {sign : Bool} {code : Fin codes}
    (h : ofDecimal false digits exponent = .finite sign code) :
    ofDecimal negative digits exponent = .finite negative code := by
  by_cases hdigits : digits = 0
  · rw [ofDecimal, if_pos hdigits] at h ⊢
    obtain ⟨-, rfl⟩ := Double.finite.inj h
    rfl
  · rw [ofDecimal_eq_ofQuotient hdigits, ofQuotient, ofUnits] at h ⊢
    split at h
    · next hcode =>
      obtain ⟨-, rfl⟩ := Double.finite.inj h
      rw [dif_pos hcode]
    · cases h

theorem ofDecimal_of_readsAs {code digits : Nat} {exponent : Int} (hcode : code < codes)
    (h : readsAs code digits exponent = true) :
    ofDecimal negative digits exponent = .finite negative ⟨code, hcode⟩ := by
  unfold readsAs at h
  split at h
  · next sign read hread =>
    have hsame : read = ⟨code, hcode⟩ := Fin.ext (beq_iff_eq.mp h)
    rw [← hsame]
    exact ofDecimal_of_unsigned hread
  · cases h

/-- All digits of a magnitude denote it: ten times a fifth is the half that makes the unit. -/
theorem ofDecimal_exact {code : Nat} (hcode : code < codes) (hpos : units code ≠ 0) :
    ofDecimal negative (units code * 5 ^ unitExponent) (-(unitExponent : Int)) =
      .finite negative ⟨code, hcode⟩ := by
  have hdigits : units code * 5 ^ unitExponent ≠ 0 := Nat.mul_ne_zero hpos (by positivity)
  have hnum : (-(unitExponent : Int)).toNat = 0 := by omega
  have hden : (- -(unitExponent : Int)).toNat = unitExponent := by omega
  have hten : (10 : Nat) ^ unitExponent = 5 ^ unitExponent * 2 ^ unitExponent :=
    Nat.mul_pow 5 2 unitExponent
  have hnearest : nearestCode (units code * 5 ^ unitExponent * 2 ^ unitExponent)
      (10 ^ unitExponent) = code := by
    have hscaled :=
      nearestCode_mul_right (units code) 1 (by positivity : 0 < 10 ^ unitExponent)
    rw [Nat.one_mul, nearestCode_units, hten, ← Nat.mul_assoc] at hscaled
    rwa [hten]
  rw [ofDecimal_eq_ofQuotient hdigits, hnum, hden, pow_zero, Nat.mul_one, ofQuotient, unitsPerOne,
    Nat.pow_eq, ofUnits_of_lt (hnearest.symm ▸ hcode)]
  simp only [hnearest]

theorem units_ne_zero {code : Nat} (h : code ≠ 0) : units code ≠ 0 := by
  intro hzero
  have hcode := nearestCode_units code
  have hnearest : nearestCode 0 1 = 0 := by decide
  rw [hzero, hnearest] at hcode
  exact h hcode.symm

theorem ofDecimal_shortestFrom {code : Nat} (hcode : code < codes) (hpos : code ≠ 0) (point : Int)
    (length tries : Nat) :
    ofDecimal negative (shortestFrom code point length tries).1
      (shortestFrom code point length tries).2 = .finite negative ⟨code, hcode⟩ := by
  induction tries generalizing length with
  | zero =>
    rw [shortestFrom, Nat.pow_eq]
    exact ofDecimal_exact hcode (units_ne_zero hpos)
  | succ tries ih =>
    rw [shortestFrom]
    split
    · next digits hfound =>
      have hreads := List.find?_some hfound
      exact ofDecimal_of_readsAs hcode hreads
    · exact ih (length + 1)

/-- **The shortest decimal of a magnitude denotes it.** -/
theorem ofDecimal_shortest {code : Nat} (hcode : code < codes) (hpos : code ≠ 0) :
    ofDecimal negative (shortest code).1 (shortest code).2 = .finite negative ⟨code, hcode⟩ :=
  ofDecimal_shortestFrom hcode hpos _ _ _

/-! ## Zeros at the end -/

/-- The zeros that are dropped are counted in the exponent. -/
theorem exists_dropZeros (digits : List Char) (exponent : Int) :
    ∃ count : Nat, digits = (dropZeros digits exponent).1 ++ List.replicate count '0' ∧
      (dropZeros digits exponent).2 = exponent + count := by
  have hsplit := List.takeWhile_append_dropWhile (p := (· == '0')) (l := digits.reverse)
  have hzeros : ∀ c ∈ digits.reverse.takeWhile (· == '0'), c = '0' := by
    intro c hc
    simpa using List.mem_takeWhile_imp hc
  have hdigits := congrArg List.reverse hsplit
  rw [List.reverse_append, List.reverse_reverse, List.eq_replicate_of_mem hzeros,
    List.reverse_replicate] at hdigits
  refine ⟨(digits.reverse.takeWhile (· == '0')).length, hdigits.symm, ?_⟩
  have hlength := congrArg List.length hdigits
  rw [List.length_append, List.length_replicate] at hlength
  simp only [dropZeros]
  omega

end RequestScript.Double
