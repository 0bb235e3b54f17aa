import Mathlib.Algebra.Order.Ring.Nat
import Mathlib.Data.List.Induction
import Mathlib.Tactic.Ring
import RequestScript.Text.Numeral

/-!
# Decimal numerals

The decimal numeral of a number denotes it, has ASCII digits only, and does not start with a zero
unless it is one. Zeros in front of a numeral change nothing, and each zero behind it multiplies by
ten.
-/

namespace RequestScript.Text

theorem toNat_lt_of_isDigit {c : Char} (h : c.isDigit = true) : c.toNat < 0x80 := by
  simp only [Char.isDigit, Bool.and_eq_true, decide_eq_true_eq] at h
  have hnine : c.toNat ≤ '9'.toNat := h.2
  have : '9'.toNat < 0x80 := by decide
  omega

theorem digitValue_of_isDigit {c : Char} (h : c.isDigit = true) :
    digitValue c = c.toNat - '0'.toNat :=
  of_toNat_lt (P := fun c => c.isDigit = true → digitValue c = c.toNat - '0'.toNat)
    (by decide) (toNat_lt_of_isDigit h) h

/-- A digit is neither a blank nor a sign nor an underscore. -/
theorem isDigit_spec {c : Char} (h : c.isDigit = true) :
    isDigit c = true ∧ isBlank c = false ∧ c ∉ ['-', '+', '_'] :=
  of_toNat_lt (P := fun c => c.isDigit = true →
    isDigit c = true ∧ isBlank c = false ∧ c ∉ ['-', '+', '_'])
    (by decide) (toNat_lt_of_isDigit h) h

theorem natOfDigits_append (front back : List Char) :
    natOfDigits (front ++ back) = natOfDigits front * 10 ^ back.length + natOfDigits back := by
  induction back using List.reverseRecOn with
  | nil => simp [natOfDigits]
  | append_singleton back c ih =>
    have hconcat : ∀ cs, natOfDigits (cs ++ [c]) = 10 * natOfDigits cs + digitValue c := by
      simp [natOfDigits]
    rw [← List.append_assoc, hconcat, hconcat, ih, List.length_append, List.length_singleton]
    ring

/-- A text of digits denotes a number with no more digits. -/
theorem natOfDigits_lt (digits : List Char) : natOfDigits digits < Nat.pow 10 digits.length := by
  induction digits using List.reverseRecOn with
  | nil => exact Nat.one_pos
  | append_singleton digits c ih =>
    have hdigit := digitValue_lt_ten c
    have hpow : Nat.pow 10 (digits.length + 1) = Nat.pow 10 digits.length * 10 := rfl
    rw [natOfDigits, List.foldl_append, ← natOfDigits, List.length_append, List.length_singleton,
      hpow]
    simp only [List.foldl_cons, List.foldl_nil]
    omega

theorem natOfDigits_zeros (count : Nat) : natOfDigits (List.replicate count '0') = 0 := by
  have hzero : digitValue '0' = 0 := by decide
  induction count with
  | zero => rfl
  | succ count ih => simpa [natOfDigits, List.replicate_succ, hzero] using ih

theorem natOfDigits_zeros_append (count : Nat) (digits : List Char) :
    natOfDigits (List.replicate count '0' ++ digits) = natOfDigits digits := by
  rw [natOfDigits_append, natOfDigits_zeros, Nat.zero_mul, Nat.zero_add]

theorem natOfDigits_append_zeros (digits : List Char) (count : Nat) :
    natOfDigits (digits ++ List.replicate count '0') = natOfDigits digits * 10 ^ count := by
  rw [natOfDigits_append, natOfDigits_zeros, List.length_replicate, Nat.add_zero]

/-! ## Numerals of numbers -/

theorem isDigit_of_mem_decimal {n : Nat} {c : Char} (h : c ∈ decimal n) : c.isDigit = true :=
  Nat.isDigit_of_mem_toDigits (by decide) (by decide) h

theorem decimal_ne_nil (n : Nat) : decimal n ≠ [] :=
  Nat.toDigits_ne_nil

/-- The numeral of a number denotes it. -/
theorem natOfDigits_decimal (n : Nat) : natOfDigits (decimal n) = n := by
  have hfold : ∀ digits : List Char, (∀ c ∈ digits, c.isDigit = true) → ∀ start,
      digits.foldl (fun n c => 10 * n + digitValue c) start = Nat.ofDigitChars 10 digits start := by
    intro digits
    induction digits with
    | nil => exact fun _ _ => rfl
    | cons c rest ih =>
      intro hdigits start
      obtain ⟨hc, hrest⟩ := List.forall_mem_cons.mp hdigits
      rw [List.foldl_cons, Nat.ofDigitChars_cons, digitValue_of_isDigit hc, ih hrest]
  rw [natOfDigits, hfold _ fun c hc => isDigit_of_mem_decimal hc]
  exact Nat.ofDigitChars_ten_toDigits

theorem length_decimal_le_iff {n limit : Nat} (hlimit : 0 < limit) :
    (decimal n).length ≤ limit ↔ n < 10 ^ limit :=
  Nat.length_toDigits_le_iff (by decide) hlimit

/-- Only the numeral of zero starts with a zero. -/
theorem head_decimal {n : Nat} {rest : List Char} (h : decimal n = '0' :: rest) : rest = [] := by
  have hvalue := natOfDigits_decimal n
  have hless := natOfDigits_lt rest
  have hdrop : natOfDigits ('0' :: rest) = natOfDigits rest := natOfDigits_zeros_append 1 rest
  rw [h, hdrop] at hvalue
  rw [hvalue] at hless
  by_contra hne
  have hpos : 0 < rest.length := List.length_pos_iff.mpr hne
  have hlength := (length_decimal_le_iff hpos).mpr hless
  rw [h, List.length_cons] at hlength
  omega

theorem natOfDigits_padded (width n : Nat) : natOfDigits (padded width n) = n := by
  rw [padded, natOfDigits_zeros_append, natOfDigits_decimal]

theorem isDigit_of_mem_padded {width n : Nat} {c : Char} (h : c ∈ padded width n) :
    c.isDigit = true := by
  rcases List.mem_append.mp h with hzero | hdigit
  · rw [List.eq_of_mem_replicate hzero]
    decide
  · exact isDigit_of_mem_decimal hdigit

theorem padded_ne_nil (width n : Nat) : padded width n ≠ [] :=
  List.append_ne_nil_of_right_ne_nil _ (decimal_ne_nil n)

theorem length_padded {width n : Nat} (hwidth : 0 < width) (h : n < 10 ^ width) :
    (padded width n).length = width := by
  have hlength := (length_decimal_le_iff hwidth).mpr h
  rw [padded, List.length_append, List.length_replicate, Nat.sub_add_cancel hlength]

/-- Of two texts that start with numerals of one length, the one whose numeral denotes the smaller
number comes first. -/
theorem append_lt_append {digits others : List Char} (hlength : digits.length = others.length)
    (hdigits : ∀ c ∈ digits, c.isDigit = true) (hothers : ∀ c ∈ others, c.isDigit = true)
    (h : natOfDigits digits < natOfDigits others) (front back : List Char) :
    digits ++ front < others ++ back := by
  have hcons (c : Char) (cs : List Char) :
      natOfDigits (c :: cs) = digitValue c * 10 ^ cs.length + natOfDigits cs := by
    rw [← List.singleton_append, natOfDigits_append]
    simp [natOfDigits]
  induction digits generalizing others with
  | nil =>
    obtain rfl := List.eq_nil_of_length_eq_zero hlength.symm
    exact absurd h (lt_irrefl _)
  | cons c digits ih =>
    cases others with
    | nil => exact absurd hlength (Nat.succ_ne_zero _)
    | cons d others =>
      have hrest : digits.length = others.length := Nat.succ.inj hlength
      obtain ⟨hc, hdigits⟩ := List.forall_mem_cons.mp hdigits
      obtain ⟨hd, hothers⟩ := List.forall_mem_cons.mp hothers
      rw [hcons, hcons, hrest] at h
      have hless := natOfDigits_lt others
      rcases lt_trichotomy (digitValue c) (digitValue d) with hlt | heq | hgt
      · rw [digitValue_of_isDigit hc, digitValue_of_isDigit hd] at hlt
        have hcode : c.toNat < d.toNat := by omega
        exact .rel hcode
      · have hsame : c = d := by
          have hcode : '0'.toNat ≤ c.toNat ∧ '0'.toNat ≤ d.toNat := by
            simp only [Char.isDigit, Bool.and_eq_true, decide_eq_true_eq] at hc hd
            exact ⟨hc.1, hd.1⟩
          rw [digitValue_of_isDigit hc, digitValue_of_isDigit hd] at heq
          exact Char.toNat_inj.mp (by omega)
        rw [heq] at h
        exact hsame ▸ .cons (ih hrest hdigits hothers (Nat.lt_of_add_lt_add_left h))
      · have hstep : (digitValue d + 1) * 10 ^ others.length ≤
            digitValue c * 10 ^ others.length := Nat.mul_le_mul_right _ hgt
        rw [Nat.add_mul, Nat.one_mul] at hstep
        change natOfDigits others < 10 ^ others.length at hless
        omega

/-! ## Numerals of integers -/

/-- No digit of any script is a blank. -/
theorem isBlank_of_isDigit {c : Char} (h : isDigit c = true) : isBlank c = false := by
  have hapart : ∀ first ∈ digitZeros, ∀ range ∈ blankRanges,
      first + 9 < range.1 ∨ range.2 < first := by decide
  rw [isDigit, digitValue?, Option.isSome_map, List.find?_isSome] at h
  obtain ⟨first, hfirst, hc⟩ := h
  rw [Bool.and_eq_true, decide_eq_true_eq, decide_eq_true_eq] at hc
  refine List.any_eq_false.mpr fun range hrange hcode => ?_
  rw [Bool.and_eq_true, decide_eq_true_eq, decide_eq_true_eq] at hcode
  have hbetween := hapart first hfirst range hrange
  omega

/-- Digits alone are one group. -/
theorem groupedDigits?_of_forall {digits : List Char} (hne : digits ≠ [])
    (h : ∀ c ∈ digits, isDigit c = true) : groupedDigits? digits = some digits := by
  induction digits with
  | nil => exact absurd rfl hne
  | cons c rest ih =>
    obtain ⟨hdigit, hrest⟩ := List.forall_mem_cons.mp h
    cases rest with
    | nil => simp [groupedDigits?, hdigit]
    | cons d more =>
      have hd : d ≠ '_' := by
        rintro rfl
        exact absurd (hrest '_' List.mem_cons_self) (by decide)
      have htail : groupedDigits? (d :: more) = some (d :: more) :=
        ih (List.cons_ne_nil d more) hrest
      rw [groupedDigits?.eq_4 c (d :: more) (by simp) (by simpa using hd), if_pos hdigit, htail]
      rfl

/-- Digits behind a sign read as the number that they denote, unless they are too many. -/
theorem readInt?_of_takeSign {cs digits : List Char} {negative : Bool}
    (hsign : takeSign (trimNumeral cs) = (negative, digits)) (hne : digits ≠ [])
    (h : ∀ c ∈ digits, isDigit c = true) :
    readInt? cs = if digits.length ≤ digitLimit then
      some (if negative then -(natOfDigits digits : Int) else natOfDigits digits) else none := by
  simp only [readInt?, hsign, groupedDigits?_of_forall hne h, readNat?, bind, Option.bind, pure]
  by_cases hlength : digits.length ≤ digitLimit <;> simp [hlength]

/-- A text that does not start with a blank stays as it is. -/
theorem dropWhile_isNumeralBlank {cs : List Char} (h : ∀ c ∈ cs.head?, isBlank c = false) :
    cs.dropWhile isNumeralBlank = cs := by
  cases cs with
  | nil => rfl
  | cons c rest => rw [List.dropWhile_cons_of_neg (by simp [isNumeralBlank, h c rfl])]

/-- The numeral of an integer has no blanks. -/
theorem isBlank_of_mem_decimalInt {n : Int} : ∀ c ∈ decimalInt n, isBlank c = false := by
  intro c hc
  have hdigits : ∀ c ∈ decimal n.natAbs, isBlank c = false := fun c hc =>
    (isDigit_spec (isDigit_of_mem_decimal hc)).2.1
  unfold decimalInt at hc
  split at hc
  · rcases List.mem_cons.mp hc with rfl | hc
    · decide
    · exact hdigits c hc
  · exact hdigits c hc

theorem takeSign_decimalInt (n : Int) :
    takeSign (decimalInt n) = (decide (n < 0), decimal n.natAbs) := by
  unfold decimalInt
  split
  · next hneg => simp [takeSign, hneg]
  · next hneg =>
    obtain ⟨c, rest, hcons⟩ := List.exists_cons_of_ne_nil (decimal_ne_nil n.natAbs)
    have hc := (isDigit_spec (isDigit_of_mem_decimal (hcons ▸ List.mem_cons_self))).2.2
    simp only [List.mem_cons, List.not_mem_nil, or_false, not_or] at hc
    rw [hcons, takeSign.eq_3 (c :: rest) (by simpa using hc.1) (by simpa using hc.2.1)]
    simp [hneg]

/-- The numeral of an integer reads as the integer, unless it has too many digits. -/
theorem readInt?_decimalInt {n : Int} (h : (decimal n.natAbs).length ≤ digitLimit) :
    readInt? (decimalInt n) = some n := by
  have htrim : trimNumeral (decimalInt n) = decimalInt n := by
    have hfront : ∀ c ∈ (decimalInt n).head?, isBlank c = false := fun c hc =>
      isBlank_of_mem_decimalInt c (List.mem_of_mem_head? hc)
    have hback : ∀ c ∈ (decimalInt n).reverse.head?, isBlank c = false := fun c hc =>
      isBlank_of_mem_decimalInt c (List.mem_reverse.mp (List.mem_of_mem_head? hc))
    rw [trimNumeral, dropWhile_isNumeralBlank hfront, dropWhile_isNumeralBlank hback,
      List.reverse_reverse]
  rw [readInt?_of_takeSign (htrim.symm ▸ takeSign_decimalInt n) (decimal_ne_nil _)
    fun c hc => (isDigit_spec (isDigit_of_mem_decimal hc)).1, if_pos h, natOfDigits_decimal]
  simp only [decide_eq_true_eq, Option.some.injEq]
  split <;> omega

end RequestScript.Text
