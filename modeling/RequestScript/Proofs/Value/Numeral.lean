import RequestScript.Proofs.Double.Decimal
import RequestScript.Value.Reader
import RequestScript.Value.Writer

/-!
# Numbers in JSON texts

The text of a double is a numeral with a fraction or an exponent, which reads back as the double
where no character behind it could belong to it. An integer that is short enough reads back in the
same way.
-/

namespace RequestScript.Value

open Text Double

/-- No character at the start of a text could belong to a numeral in front of it. -/
def EndsNumeral (rest : List Char) : Prop :=
  ∀ c ∈ rest.head?, isAsciiDigit c = false ∧ c ≠ '.' ∧ c ≠ 'e' ∧ c ≠ 'E'

/-- The parts of an unsigned numeral. -/
structure Numeral where
  /-- The digits before the point. -/
  whole : List Char
  /-- The digits behind the point, if there is one. -/
  fraction : Option (List Char)
  /-- The exponent, if there is one. -/
  exponent : Option Int

namespace Numeral

/-- The text of a numeral. -/
def text (numeral : Numeral) : List Char :=
  numeral.whole ++ (numeral.fraction.map ('.' :: ·)).getD [] ++
    (numeral.exponent.map exponentText).getD []

/-- The double that a numeral with a fraction or an exponent denotes. -/
def double (numeral : Numeral) (negative : Bool) : Double :=
  let fraction := numeral.fraction.getD []
  .ofDecimal negative (natOfDigits (numeral.whole ++ fraction))
    (numeral.exponent.getD 0 - fraction.length)

/-- A numeral as JSON texts have it for a double. -/
structure WellFormed (numeral : Numeral) : Prop where
  /-- There are digits before the point. -/
  whole_ne_nil : numeral.whole ≠ []
  /-- They do not start with a zero, unless they are one. -/
  lead : numeral.whole = ['0'] ∨ numeral.whole.head? ≠ some '0'
  whole : ∀ c ∈ numeral.whole, isAsciiDigit c = true
  /-- There are digits behind a point. -/
  fraction : ∀ fraction ∈ numeral.fraction, fraction ≠ [] ∧ ∀ c ∈ fraction, isAsciiDigit c = true
  /-- The numeral is not that of an integer. -/
  given : numeral.fraction.isSome = true ∨ numeral.exponent.isSome = true

end Numeral

/-! ## Reading numerals -/

/-- Digits are taken up to the first character that is none. -/
theorem takeWhile_digits {digits rest : List Char} (hdigits : ∀ c ∈ digits, isAsciiDigit c = true)
    (hrest : ∀ c ∈ rest.head?, isAsciiDigit c = false) :
    (digits ++ rest).takeWhile isAsciiDigit = digits ∧
      (digits ++ rest).dropWhile isAsciiDigit = rest := by
  have hstop : rest.takeWhile isAsciiDigit = [] ∧ rest.dropWhile isAsciiDigit = rest := by
    cases rest with
    | nil => exact ⟨rfl, rfl⟩
    | cons c more => simp [hrest c rfl]
  rw [List.takeWhile_append_of_pos hdigits, List.dropWhile_append_of_pos hdigits, hstop.1, hstop.2,
    List.append_nil]
  exact ⟨rfl, rfl⟩

theorem readWhole?_append {whole rest : List Char} (hne : whole ≠ [])
    (hlead : whole = ['0'] ∨ whole.head? ≠ some '0') (hwhole : ∀ c ∈ whole, isAsciiDigit c = true)
    (hrest : ∀ c ∈ rest.head?, isAsciiDigit c = false) :
    readWhole? (whole ++ rest) = some (whole, rest) := by
  obtain ⟨htake, hdrop⟩ := takeWhile_digits hwhole hrest
  unfold readWhole?
  rw [htake, hdrop]
  split
  · exact absurd rfl hne
  · next more =>
    rcases hlead with hzero | hnonzero
    · obtain ⟨-, rfl⟩ := List.cons.inj hzero
      rfl
    · exact absurd rfl hnonzero
  · rfl

theorem readFraction_point {fraction rest : List Char} (hne : fraction ≠ [])
    (hfraction : ∀ c ∈ fraction, isAsciiDigit c = true)
    (hrest : ∀ c ∈ rest.head?, isAsciiDigit c = false) :
    readFraction ('.' :: fraction ++ rest) = (some fraction, rest) := by
  obtain ⟨htake, hdrop⟩ := takeWhile_digits hfraction hrest
  rw [List.cons_append, readFraction, htake, hdrop]
  split
  · exact absurd rfl hne
  · rfl

theorem readFraction_of_ne {rest : List Char} (hrest : ∀ c ∈ rest.head?, c ≠ '.') :
    readFraction rest = (none, rest) := by
  unfold readFraction
  split
  · exact absurd rfl (hrest _ rfl)
  · rfl

theorem readExponent_of_ne {rest : List Char} (hrest : ∀ c ∈ rest.head?, c ≠ 'e' ∧ c ≠ 'E') :
    readExponent rest = (none, rest) := by
  unfold readExponent
  split
  · next c more =>
    have hc := hrest c rfl
    simp [hc]
  · rfl

/-- An exponent reads back. -/
theorem readExponent_exponentText (exponent : Int) {rest : List Char}
    (hrest : ∀ c ∈ rest.head?, isAsciiDigit c = false) :
    readExponent (exponentText exponent ++ rest) = (some exponent, rest) := by
  have hdigits : ∀ c ∈ padded 2 exponent.natAbs, isAsciiDigit c = true := fun _ =>
    isDigit_of_mem_padded
  obtain ⟨htake, hdrop⟩ := takeWhile_digits hdigits hrest
  have hsign : takeSign ((if exponent < 0 then '-' else '+') ::
      (padded 2 exponent.natAbs ++ rest)) =
        (decide (exponent < 0), padded 2 exponent.natAbs ++ rest) := by
    by_cases hneg : exponent < 0 <;> simp [hneg, takeSign]
  rw [exponentText, List.cons_append, List.cons_append, readExponent, if_pos (by decide), hsign]
  dsimp only
  rw [htake, hdrop]
  split
  · next hnone => exact absurd hnone (padded_ne_nil _ _)
  · have hvalue : (if decide (exponent < 0) = true then -(exponent.natAbs : Int)
        else (exponent.natAbs : Int)) = exponent := by
      by_cases hneg : exponent < 0
      · rw [if_pos (decide_eq_true hneg)]
        omega
      · rw [if_neg (by simpa using hneg)]
        omega
    rw [natOfDigits_padded, hvalue]

theorem ne_minus_of_isAsciiDigit {c : Char} (h : isAsciiDigit c = true) : c ≠ '-' := by
  rintro rfl
  exact absurd h (by decide)

theorem Numeral.WellFormed.head?_text {numeral : Numeral} (h : numeral.WellFormed)
    (rest : List Char) : ∀ c ∈ (numeral.text ++ rest).head?, isAsciiDigit c = true := by
  obtain ⟨first, more, hwhole⟩ := List.exists_cons_of_ne_nil h.whole_ne_nil
  intro c hc
  rw [Numeral.text, hwhole] at hc
  obtain rfl := Option.some.inj hc
  exact h.whole _ (hwhole ▸ List.mem_cons_self)

/-- What is read of a number behind its sign, part by part. -/
theorem readNumber_of_parts {negative : Bool} {cs whole rest after last : List Char}
    {fraction : Option (List Char)} {exponent : Option Int} (hcs : ∀ c ∈ cs.head?, c ≠ '-')
    (hwhole : readWhole? cs = some (whole, rest))
    (hfraction : readFraction rest = (fraction, after))
    (hexponent : readExponent after = (exponent, last)) :
    readNumber (signed negative cs) =
      if fraction.isNone && exponent.isNone then (readWholeNumber negative whole).map (·, last)
      else .ok (.double (Numeral.double ⟨whole, fraction, exponent⟩ negative), last) := by
  unfold readNumber
  cases negative with
  | true =>
    cases fraction <;> cases exponent <;>
      simp [signed, hwhole, hfraction, hexponent, Numeral.double]
  | false =>
    have hplain : signed false cs = cs := rfl
    rw [hplain]
    cases cs with
    | nil => cases hwhole
    | cons c more =>
      have hc := hcs c rfl
      cases fraction <;> cases exponent <;>
        simp [hc, hwhole, hfraction, hexponent, Numeral.double]

/-- **A numeral with a fraction or an exponent reads back.** -/
theorem readNumber_text {numeral : Numeral} (h : numeral.WellFormed) (negative : Bool)
    {rest : List Char} (hrest : EndsNumeral rest) :
    readNumber (signed negative (numeral.text ++ rest)) =
      .ok (.double (numeral.double negative), rest) := by
  have hcs : ∀ c ∈ (numeral.text ++ rest).head?, c ≠ '-' := fun c hc =>
    ne_minus_of_isAsciiDigit (h.head?_text rest c hc)
  obtain ⟨whole, fraction, exponent⟩ := numeral
  obtain ⟨hne, hlead, hwhole, hfraction, hgiven⟩ := h
  have hlast : ∀ c ∈ ((exponent.map exponentText).getD [] ++ rest).head?,
      isAsciiDigit c = false ∧ c ≠ '.' := by
    cases exponent with
    | none => exact fun c hc => ⟨(hrest c hc).1, (hrest c hc).2.1⟩
    | some exponent =>
      intro c hc
      obtain rfl := Option.some.inj hc
      decide
  have hexponent : readExponent ((exponent.map exponentText).getD [] ++ rest) =
      (exponent, rest) := by
    cases exponent with
    | none => exact readExponent_of_ne fun c hc => (hrest c hc).2.2
    | some exponent => exact readExponent_exponentText exponent fun c hc => (hrest c hc).1
  have htext : Numeral.text ⟨whole, fraction, exponent⟩ ++ rest =
      whole ++ ((fraction.map ('.' :: ·)).getD [] ++
        ((exponent.map exponentText).getD [] ++ rest)) := by
    simp only [Numeral.text, List.append_assoc]
  rw [htext] at hcs ⊢
  generalize (exponent.map exponentText).getD [] ++ rest = behind at hcs hlast hexponent ⊢
  cases fraction with
  | none =>
    have hread := readWhole?_append hne hlead hwhole fun c hc => (hlast c hc).1
    obtain ⟨exponent, rfl⟩ := Option.isSome_iff_exists.mp (hgiven.resolve_left nofun)
    exact readNumber_of_parts hcs hread (readFraction_of_ne fun c hc => (hlast c hc).2) hexponent
  | some fraction =>
    obtain ⟨hpoint, hdigits⟩ := hfraction fraction rfl
    have hread : readWhole? (whole ++ ('.' :: fraction ++ behind)) =
        some (whole, '.' :: fraction ++ behind) :=
      readWhole?_append hne hlead hwhole fun c hc => by
        obtain rfl := Option.some.inj hc
        decide
    rw [Option.map_some, Option.getD_some] at hcs ⊢
    exact readNumber_of_parts hcs hread
      (readFraction_point hpoint hdigits fun c hc => (hlast c hc).1) hexponent

/-! ## Integers -/

theorem head?_decimal (n : Nat) (rest : List Char) :
    ∀ c ∈ (decimal n ++ rest).head?, isAsciiDigit c = true := by
  obtain ⟨first, more, hdecimal⟩ := List.exists_cons_of_ne_nil (decimal_ne_nil n)
  intro c hc
  rw [hdecimal] at hc
  obtain rfl := Option.some.inj hc
  have hmem : first ∈ decimal n := hdecimal ▸ List.mem_cons_self
  exact isDigit_of_mem_decimal hmem

theorem lead_decimal (n : Nat) : decimal n = ['0'] ∨ (decimal n).head? ≠ some '0' := by
  obtain ⟨first, more, hdecimal⟩ := List.exists_cons_of_ne_nil (decimal_ne_nil n)
  by_cases hzero : first = '0'
  · left
    rw [hzero] at hdecimal
    rw [hdecimal, head_decimal hdecimal]
  · right
    rw [hdecimal]
    simpa using hzero

theorem decimalInt_eq_signed (n : Int) :
    decimalInt n = signed (decide (n < 0)) (decimal n.natAbs) := by
  by_cases hneg : n < 0 <;> simp [decimalInt, signed, hneg]

/-- The numeral of an integer that is not too long reads back. -/
theorem readNumber_decimalInt {n : Int} (hn : isTooLong n = false) {rest : List Char}
    (hrest : EndsNumeral rest) : readNumber (decimalInt n ++ rest) = .ok (.int n, rest) := by
  have hsigned : decimalInt n ++ rest =
      signed (decide (n < 0)) (decimal n.natAbs ++ rest) := by
    rw [decimalInt_eq_signed]
    cases decide (n < 0) <;> rfl
  have hcs : ∀ c ∈ (decimal n.natAbs ++ rest).head?, c ≠ '-' := fun c hc =>
    ne_minus_of_isAsciiDigit (head?_decimal _ _ c hc)
  have hread : readWhole? (decimal n.natAbs ++ rest) = some (decimal n.natAbs, rest) :=
    readWhole?_append (decimal_ne_nil _) (lead_decimal _) (fun c hc => isDigit_of_mem_decimal hc)
      fun c hc => (hrest c hc).1
  have hlength : (decimal n.natAbs).length ≤ digitLimit := by
    rw [isTooLong, decide_eq_false_iff_not, Nat.not_le, Nat.pow_eq] at hn
    exact (length_decimal_le_iff (by decide)).mpr hn
  have hvalue : (if decide (n < 0) = true then -(n.natAbs : Int) else (n.natAbs : Int)) = n := by
    by_cases hneg : n < 0
    · rw [if_pos (decide_eq_true hneg)]
      omega
    · rw [if_neg (by simpa using hneg)]
      omega
  have hwhole : readWholeNumber (decide (n < 0)) (decimal n.natAbs) = .ok (.int n) := by
    rw [readWholeNumber, readNat?, if_pos hlength, natOfDigits_decimal]
    dsimp only
    rw [hvalue]
  rw [hsigned, readNumber_of_parts hcs hread (readFraction_of_ne fun c hc => (hrest c hc).2.1)
    (readExponent_of_ne fun c hc => (hrest c hc).2.2), hwhole]
  rfl

/-! ## Doubles -/

/-- A numeral denotes a decimal, whatever its sign is. -/
def Numeral.Denotes (numeral : Numeral) (digits : Nat) (exponent : Int) : Prop :=
  ∀ negative, numeral.double negative = .ofDecimal negative digits exponent

theorem Numeral.wellFormed_of_fraction {whole fraction : List Char} (exponent : Option Int)
    (hne : whole ≠ []) (hlead : whole = ['0'] ∨ whole.head? ≠ some '0')
    (hwhole : ∀ c ∈ whole, isAsciiDigit c = true) (hpoint : fraction ≠ [])
    (hfraction : ∀ c ∈ fraction, isAsciiDigit c = true) :
    WellFormed ⟨whole, some fraction, exponent⟩ where
  whole_ne_nil := hne
  lead := hlead
  whole := hwhole
  fraction := fun _ hmem => Option.some.inj hmem ▸ ⟨hpoint, hfraction⟩
  given := .inl rfl

section Layout

variable {digits : List Char} {point : Int} (hne : digits ≠ [])
  (hdigits : ∀ c ∈ digits, isAsciiDigit c = true) (hlead : digits.head? ≠ some '0')

theorem isAsciiDigit_of_mem_zeros {count : Nat} {c : Char} (h : c ∈ List.replicate count '0') :
    isAsciiDigit c = true := by
  rw [List.eq_of_mem_replicate h]
  decide

theorem isAsciiDigit_of_mem_zero : ∀ c ∈ ['0'], isAsciiDigit c = true :=
  List.forall_mem_singleton.mpr (by decide)

include hne hdigits in
/-- Zeros stand between the point and the digits. -/
theorem exists_numeral_of_small (hpoint : point ≤ 0) :
    ∃ numeral : Numeral, numeral.WellFormed ∧
      '0' :: '.' :: List.replicate (-point).toNat '0' ++ digits = numeral.text ∧
      numeral.Denotes (natOfDigits digits) (point - digits.length) := by
  have hfraction : ∀ c ∈ List.replicate (-point).toNat '0' ++ digits, isAsciiDigit c = true :=
    fun c hc => (List.mem_append.mp hc).elim isAsciiDigit_of_mem_zeros (hdigits c)
  refine ⟨⟨['0'], some (List.replicate (-point).toNat '0' ++ digits), none⟩, ?_, ?_, ?_⟩
  · exact Numeral.wellFormed_of_fraction none (by simp) (.inl rfl) isAsciiDigit_of_mem_zero
      (List.append_ne_nil_of_right_ne_nil _ hne) hfraction
  · simp [Numeral.text]
  · intro negative
    have hvalue : natOfDigits (['0'] ++ (List.replicate (-point).toNat '0' ++ digits)) =
        natOfDigits digits := by
      have hmore : ['0'] ++ (List.replicate (-point).toNat '0' ++ digits) =
          List.replicate ((-point).toNat + 1) '0' ++ digits := by
        simp [List.replicate_succ]
      rw [hmore, natOfDigits_zeros_append]
    have hexponent : (0 : Int) - ((List.replicate (-point).toNat '0' ++ digits).length : Nat) =
        point - digits.length := by
      simp only [List.length_append, List.length_replicate]
      omega
    simp only [Numeral.double, Option.getD_some, Option.getD_none, hvalue, hexponent]

include hne hdigits hlead in
/-- Zeros stand between the digits and the point. -/
theorem exists_numeral_of_large (hpoint : digits.length ≤ point.toNat) :
    ∃ numeral : Numeral, numeral.WellFormed ∧
      digits ++ List.replicate (point.toNat - digits.length) '0' ++ ['.', '0'] = numeral.text ∧
      numeral.Denotes (natOfDigits digits) (point - digits.length) := by
  have hpos : 0 < digits.length := List.length_pos_iff.mpr hne
  obtain ⟨count, hcount⟩ : ∃ count, point.toNat = digits.length + count :=
    Nat.exists_eq_add_of_le hpoint
  have hzeros : point.toNat - digits.length = count := by omega
  have hwhole : ∀ c ∈ digits ++ List.replicate count '0', isAsciiDigit c = true :=
    fun c hc => (List.mem_append.mp hc).elim (hdigits c) isAsciiDigit_of_mem_zeros
  have hfirst : (digits ++ List.replicate count '0').head? ≠ some '0' := by
    rwa [List.head?_append_of_ne_nil _ hne]
  rw [hzeros]
  refine ⟨⟨digits ++ List.replicate count '0', some ['0'], none⟩, ?_, ?_, ?_⟩
  · exact Numeral.wellFormed_of_fraction none (List.append_ne_nil_of_left_ne_nil hne _)
      (.inr hfirst) hwhole (by simp) isAsciiDigit_of_mem_zero
  · simp [Numeral.text]
  · intro negative
    have hvalue : natOfDigits (digits ++ List.replicate count '0' ++ ['0']) =
        natOfDigits digits * 10 ^ (count + 1) := by
      rw [← natOfDigits_append_zeros, List.replicate_succ', List.append_assoc]
    have hexponent : (0 : Int) - (['0'].length : Nat) + (count + 1 : Nat) =
        point - digits.length := by
      simp only [List.length_singleton]
      omega
    simp only [Numeral.double, Option.getD_some, Option.getD_none, hvalue, ofDecimal_mul_pow,
      hexponent]

include hdigits hlead in
/-- The point stands between the digits. -/
theorem exists_numeral_of_between (hpoint : 0 < point) (hinside : point.toNat < digits.length) :
    ∃ numeral : Numeral, numeral.WellFormed ∧
      digits.take point.toNat ++ '.' :: digits.drop point.toNat = numeral.text ∧
      numeral.Denotes (natOfDigits digits) (point - digits.length) := by
  have hhead : (digits.take point.toNat).head? ≠ some '0' := by
    rw [List.head?_take, if_neg (by omega)]
    exact hlead
  refine ⟨⟨digits.take point.toNat, some (digits.drop point.toNat), none⟩, ?_, ?_, ?_⟩
  · refine Numeral.wellFormed_of_fraction none ?_ (.inr hhead)
      (fun c hc => hdigits c (List.mem_of_mem_take hc)) ?_
      fun c hc => hdigits c (List.mem_of_mem_drop hc)
    · intro hnil
      rw [List.take_eq_nil_iff] at hnil
      rcases hnil with hnil | rfl
      · omega
      · simp at hinside
    · rwa [ne_eq, List.drop_eq_nil_iff, Nat.not_le]
  · simp [Numeral.text]
  · intro negative
    have hexponent : (0 : Int) - ((digits.drop point.toNat).length : Nat) =
        point - digits.length := by
      rw [List.length_drop]
      omega
    simp only [Numeral.double, Option.getD_some, Option.getD_none, List.take_append_drop,
      hexponent]

include hne hdigits hlead in
/-- **The text of a decimal is a numeral that denotes it.** -/
theorem exists_numeral_layout (point : Int) :
    ∃ numeral : Numeral, numeral.WellFormed ∧ layout digits point = numeral.text ∧
      numeral.Denotes (natOfDigits digits) (point - digits.length) := by
  unfold layout
  split
  · split
    · next hsmall => exact exists_numeral_of_small hne hdigits hsmall
    split
    · next hlarge => exact exists_numeral_of_large hne hdigits hlead hlarge
    · next hpoint hinside =>
      exact exists_numeral_of_between hdigits hlead (by omega) (by omega)
  · obtain ⟨d, fraction, rfl⟩ := List.exists_cons_of_ne_nil hne
    obtain ⟨hd, hfraction⟩ := List.forall_mem_cons.mp hdigits
    have hwhole : ∀ c ∈ [d], isAsciiDigit c = true := by simpa using hd
    cases fraction with
    | nil =>
      refine ⟨⟨[d], none, some (point - 1)⟩, ⟨by simp, .inr hlead, hwhole, nofun, .inr rfl⟩, ?_, ?_⟩
      · simp [Numeral.text]
      · intro negative
        simp [Numeral.double]
    | cons next more =>
      refine ⟨⟨[d], some (next :: more), some (point - 1)⟩, ?_, ?_, ?_⟩
      · exact Numeral.wellFormed_of_fraction _ (by simp) (.inr hlead) hwhole (by simp) hfraction
      · simp [Numeral.text]
      · intro negative
        have hexponent : point - 1 - ((next :: more).length : Nat) =
            point - ((d :: next :: more).length : Nat) := by
          simp only [List.length_cons]
          omega
        simp only [Numeral.double, Option.getD_some, List.singleton_append, hexponent]

end Layout

/-- The digits of a number but for its last zeros, and their exponent. -/
theorem exists_kept_digits {digits : Nat} (hdigits : digits ≠ 0) (exponent : Int) :
    ∃ kept last count, dropZeros (decimal digits) exponent = (kept, last) ∧
      last = exponent + (count : Nat) ∧ natOfDigits kept * 10 ^ count = digits ∧ kept ≠ [] ∧
      (∀ c ∈ kept, isAsciiDigit c = true) ∧ kept.head? ≠ some '0' := by
  obtain ⟨count, hzeros, hcount⟩ := exists_dropZeros (decimal digits) exponent
  generalize dropZeros (decimal digits) exponent = dropped at hzeros hcount ⊢
  obtain ⟨kept, last⟩ := dropped
  dsimp only at hzeros hcount ⊢
  have hvalue : natOfDigits kept * 10 ^ count = digits := by
    rw [← natOfDigits_append_zeros, ← hzeros, natOfDigits_decimal]
  have hkept : kept ≠ [] := by
    rintro rfl
    rw [natOfDigits, List.foldl_nil, Nat.zero_mul] at hvalue
    exact hdigits hvalue.symm
  refine ⟨kept, last, count, rfl, hcount, hvalue, hkept, fun c hc => ?_, fun hhead => ?_⟩
  · have hmem : c ∈ decimal digits := hzeros ▸ List.mem_append_left _ hc
    exact isDigit_of_mem_decimal hmem
  · have hfirst : (decimal digits).head? = some '0' := by
      rwa [hzeros, List.head?_append_of_ne_nil _ hkept]
    have hdecimal := (lead_decimal digits).resolve_right (not_not_intro hfirst)
    have hnumber := natOfDigits_decimal digits
    rw [hdecimal] at hnumber
    exact hdigits hnumber.symm

/-- The text of a magnitude is a numeral that denotes it. -/
theorem exists_numeral {code : Nat} (hcode : code < codes) :
    ∃ numeral : Numeral, numeral.WellFormed ∧ magnitudeText code = numeral.text ∧
      ∀ negative, numeral.double negative = .finite negative ⟨code, hcode⟩ := by
  by_cases hzero : code = 0
  · subst hzero
    refine ⟨⟨['0'], some ['0'], none⟩, ?_, rfl, fun negative => ?_⟩
    · exact Numeral.wellFormed_of_fraction none (by simp) (.inl rfl)
        isAsciiDigit_of_mem_zero (by simp) isAsciiDigit_of_mem_zero
    · have hvalue : natOfDigits (['0'] ++ ['0']) = 0 := by decide
      simp only [Numeral.double, Option.getD_some, hvalue, ofDecimal, if_true, zero]
  have hdecimal : ∀ negative, ofDecimal negative (shortest code).1 (shortest code).2 =
      .finite negative ⟨code, hcode⟩ := fun negative => ofDecimal_shortest hcode hzero
  rw [magnitudeText, if_neg hzero]
  generalize shortest code = shortened at hdecimal ⊢
  obtain ⟨digits, exponent⟩ := shortened
  dsimp only at hdecimal ⊢
  have hdigits : digits ≠ 0 := by
    rintro rfl
    have hfinite := hdecimal false
    rw [ofDecimal, if_pos rfl] at hfinite
    exact hzero (congrArg Fin.val (Double.finite.inj hfinite).2).symm
  obtain ⟨kept, last, count, hdropped, rfl, hvalue, hkept, hmem, hlead⟩ :=
    exists_kept_digits hdigits exponent
  obtain ⟨numeral, hnumeral, htext, hdenotes⟩ :=
    exists_numeral_layout hkept hmem hlead (exponent + count + kept.length)
  refine ⟨numeral, hnumeral, ?_, fun negative => ?_⟩
  · rw [hdropped]
    exact htext
  · rw [hdenotes, ← hdecimal negative, ← hvalue, ofDecimal_mul_pow]
    congr 1
    omega

theorem writeDouble_finite (negative : Bool) (code : Fin codes) :
    writeDouble (.finite negative code) = signed negative (magnitudeText code) := by
  simp [writeDouble, Double.text]

/-- The text of a double that is a number reads back. -/
theorem readNumber_text_double (negative : Bool) (code : Fin codes) {rest : List Char}
    (hrest : EndsNumeral rest) :
    readNumber (signed negative (magnitudeText code) ++ rest) =
      .ok (.double (.finite negative code), rest) := by
  obtain ⟨numeral, hnumeral, htext, hdouble⟩ := exists_numeral code.isLt
  have hsigned : signed negative (magnitudeText code) ++ rest =
      signed negative (numeral.text ++ rest) := by
    rw [htext]
    cases negative <;> rfl
  rw [hsigned, readNumber_text hnumeral negative hrest, hdouble]

end RequestScript.Value
