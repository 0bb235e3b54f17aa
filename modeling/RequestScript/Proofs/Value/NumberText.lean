import RequestScript.Proofs.Text.Blank
import RequestScript.Proofs.Value.Faults

/-!
# Texts of numbers

The numbers that browsers know in texts are decimals, numerals with a radix mark, and infinities.
Each of them is read, unless it is too large a numeral with a radix mark. Beyond them, decimals in
the digits of other scripts are read, and binary numerals with two marks.
-/

namespace RequestScript

namespace Text

/-- A text is a number, where it is left open which characters are the digits of a decimal. -/
inductive IsNumberText (has : Char → Bool) : List Char → Prop
  /-- A decimal with an optional sign. -/
  | decimal {sign body : List Char} (hsign : sign ∈ signs) (h : IsUnsignedDecimal has body) :
    IsNumberText has (sign ++ body)
  /-- A numeral with a radix mark. -/
  | radix {base : Nat} {mark : Char} {digits : List Char} (hmark : radix? mark = some base)
    (h : IsInBase base digits) : IsNumberText has ('0' :: mark :: digits)
  /-- An infinity with an optional sign. -/
  | infinity {sign : List Char} (hsign : sign ∈ signs) :
    IsNumberText has (sign ++ "Infinity".toList)

/-- A text is a number with a digit that is not one of ASCII. -/
def HasOtherDigits (cs : List Char) : Prop :=
  IsNumberText isDigit cs ∧ ∃ c ∈ cs, isDigit c = true ∧ c.isDigit = false

/-- A text is a binary numeral with two marks. -/
def RepeatsMark (cs : List Char) : Prop :=
  ∃ mark again digits, radix? mark = some 2 ∧ radix? again = some 2 ∧ IsInBase 2 digits ∧
    cs = '0' :: mark :: '0' :: again :: digits

/-! ## Other digits -/

section Digits

variable {has other : Char → Bool} {cs : List Char}

/-- A number stays one where its digits are digits of the other class too. -/
theorem IsNumberText.mono (h : IsNumberText has cs)
    (hmono : ∀ c ∈ cs, has c = true → other c = true) : IsNumberText other cs := by
  cases h with
  | decimal hsign h =>
    exact .decimal hsign (h.mono fun c hc => hmono c (List.mem_append_right _ hc))
  | radix hmark h => exact .radix hmark h
  | infinity hsign => exact .infinity hsign

/-- A number has digits of ASCII only, or digits of another script among them. -/
theorem isNumberText_isDigit_iff :
    IsNumberText isDigit cs ↔ IsNumberText Char.isDigit cs ∨ HasOtherDigits cs := by
  constructor
  · intro h
    by_cases hother : ∃ c ∈ cs, isDigit c = true ∧ c.isDigit = false
    · exact .inr ⟨h, hother⟩
    · refine .inl (h.mono fun c hc hdigit => ?_)
      by_contra hnot
      exact hother ⟨c, hc, hdigit, Bool.eq_false_iff.mpr hnot⟩
  · rintro (h | h)
    · exact h.mono fun c _ hdigit => (isDigit_spec hdigit).1
    · exact h.1

end Digits

end Text

namespace Value

open Text

/-- A text is a numeral with a radix mark where one mark or two stand before its digits. -/
theorem radixNumeral?_isSome_iff {cs : List Char} :
    (radixNumeral? cs).isSome ↔
      (∃ base mark digits, radix? mark = some base ∧ IsInBase base digits ∧
        cs = '0' :: mark :: digits) ∨ RepeatsMark cs := by
  simp only [Option.isSome_iff_exists, radixNumeral?_eq_some_iff]
  constructor
  · rintro ⟨n, h⟩
    cases h with
    | plain hmark h => exact .inl ⟨_, _, _, hmark, h, rfl⟩
    | repeated hmark hagain h => exact .inr ⟨_, _, _, hmark, hagain, h, rfl⟩
  · rintro (⟨base, mark, digits, hmark, h, rfl⟩ | ⟨mark, again, digits, hmark, hagain, h, rfl⟩)
    · exact ⟨_, .plain hmark h⟩
    · exact ⟨_, .repeated hmark hagain h⟩

/-- What is read as a number is a number in digits of any script, or has two marks. -/
theorem reads_iff {cs : List Char} :
    ((decimalNumeral? cs).isSome ∨ (radixNumeral? cs).isSome ∨
      (takeSign cs).2 = "Infinity".toList) ↔ IsNumberText isDigit cs ∨ RepeatsMark cs := by
  have hletter : 'I' ∉ ['+', '-'] := by simp
  have hinfinity : (takeSign cs).2 = "Infinity".toList ↔
      ∃ sign ∈ signs, ∃ body, body = "Infinity".toList ∧ cs = sign ++ body :=
    takeSign_iff (P := (· = "Infinity".toList)) fun body hbody c hc => by
      rw [hbody] at hc
      exact Option.some.inj hc ▸ hletter
  rw [decimalNumeral?_isSome_iff, radixNumeral?_isSome_iff, hinfinity]
  constructor
  · rintro (⟨sign, hsign, body, hbody, rfl⟩ |
      (⟨base, mark, digits, hmark, h, rfl⟩ | hrepeats) | ⟨sign, hsign, body, rfl, rfl⟩)
    · exact .inl (.decimal hsign hbody)
    · exact .inl (.radix hmark h)
    · exact .inr hrepeats
    · exact .inl (.infinity hsign)
  · rintro (h | hrepeats)
    · cases h with
      | decimal hsign hbody => exact .inl ⟨_, hsign, _, hbody, rfl⟩
      | radix hmark h => exact .inr (.inl (.inl ⟨_, _, _, hmark, h, rfl⟩))
      | infinity hsign => exact .inr (.inr ⟨_, hsign, _, rfl, rfl⟩)
    · exact .inr (.inl (.inr hrepeats))

/-! ## Numbers -/

theorem isNan_ofQuotient (negative : Bool) (num den : Nat) :
    (Double.ofQuotient negative num den).isNan = false := by
  unfold Double.ofQuotient Double.ofUnits
  dsimp only
  split <;> rfl

theorem isNan_of_decimalNumeral? {cs : List Char} {x : Double}
    (h : decimalNumeral? cs = some x) : x.isNan = false := by
  unfold decimalNumeral? at h
  dsimp only at h
  split at h
  · cases h
  · obtain ⟨⟨digits, exponent⟩, -, rfl⟩ := Option.map_eq_some_iff.mp h
    dsimp only
    unfold Double.ofDecimal
    split
    · rfl
    split
    · rfl
    split
    · rfl
    split
    · exact isNan_ofQuotient _ _ _
    · exact isNan_ofQuotient _ _ _

theorem isNan_of_doubleOfInt {n : Int} {x : Double} (h : doubleOfInt n = .ok x) :
    x.isNan = false := by
  unfold doubleOfInt Double.ofInt? at h
  have hnumber := isNan_ofQuotient (n < 0) n.natAbs 1
  revert h hnumber
  cases Double.ofQuotient (n < 0) n.natAbs 1 with
  | nan => nofun
  | infinite => nofun
  | finite negative code =>
    intro h _
    cases h
    rfl

section Stripped

variable {s : String} (hs : Stripped s)

include hs

theorem trim_of_stripped : trim s.toList = s.toList ∧ s.toList.isEmpty = false := by
  refine ⟨trimmed_eq_self_iff.mp hs.trimmed_eq, ?_⟩
  rw [List.isEmpty_eq_false_iff, ne_eq, String.toList_eq_nil_iff]
  exact hs.ne_empty

/-- A text denotes no number where it is none of the texts that are read. -/
theorem isNan_iff {x : Double} (h : numberOfText s = .ok x) :
    x.isNan = false ↔ IsNumberText isDigit s.toList ∨ RepeatsMark s.toList := by
  obtain ⟨htrim, hne⟩ := trim_of_stripped hs
  rw [← reads_iff]
  unfold numberOfText at h
  simp only [htrim, hne, Bool.false_eq_true, if_false] at h
  split at h
  · next y hdecimal =>
    obtain rfl := Except.ok.inj h
    exact iff_of_true (isNan_of_decimalNumeral? hdecimal) (.inl (hdecimal ▸ rfl))
  · next hdecimal =>
    split at h
    · next n hradix =>
      exact iff_of_true (isNan_of_doubleOfInt h) (.inr (.inl (hradix ▸ rfl)))
    · next hradix =>
      obtain rfl := Except.ok.inj h
      rw [hdecimal, hradix]
      split
      · next hinfinity => exact iff_of_true rfl (.inr (.inr hinfinity))
      · next hinfinity => simpa [Double.isNan] using hinfinity

end Stripped

/-- **Which texts are numbers**, of the texts without blanks around them. Only a numeral with a
radix mark fails to have a number, where it is too large. Otherwise a text denotes a number exactly
where it is one as browsers write it, or has digits of another script, or is binary and has two
marks. It counts as a number where it denotes one. -/
theorem numberOfText_iff {s : String} (hs : Stripped s) :
    (∀ fault, numberOfText s = .error fault ↔ fault = .numberTooLarge ∧
        ∃ n, IsRadixNumeral s.toList n ∧ Double.overflow ≤ n) ∧
      (Value.string s).isNumber = (numberOfText s).map (!·.isNan) ∧
      ∀ x, numberOfText s = .ok x → (x.isNan = false ↔
        IsNumberText Char.isDigit s.toList ∨ HasOtherDigits s.toList ∨ RepeatsMark s.toList) := by
  obtain ⟨htrim, hne⟩ := trim_of_stripped hs
  refine ⟨fun fault => ?_, ?_, fun x hx => ?_⟩
  · rw [numberOfText_eq_error_iff, IsHugeText, htrim]
    simp only [radixNumeral?_eq_some_iff]
  · simp only [isNumber, htrim, hne, Bool.false_eq_true, if_false]
  · rw [isNan_iff hs hx, isNumberText_isDigit_iff, or_assoc]

theorem numberOfText_underscored :
    numberOfText "1_0" = .ok .nan ∧ (Value.string "1_0").isNumber = .ok false ∧
      ¬IsNumberText Char.isDigit "1_0".toList := by
  have hread : numberOfText "1_0" = .ok .nan := rfl
  obtain ⟨-, hnumber, hnan⟩ := numberOfText_iff (s := "1_0") ⟨by decide, by decide⟩
  refine ⟨hread, hnumber.trans (hread ▸ rfl), fun htext => ?_⟩
  have hfalse : Double.nan.isNan = false := (hnan _ hread).mpr (.inl htext)
  cases hfalse

/-- A binary numeral with two marks counts as a number, and browsers do not write one. -/
theorem numberOfText_repeatedMark :
    (∃ x, numberOfText "0b0b1" = .ok x ∧ x.isNan = false) ∧
      (Value.string "0b0b1").isNumber = .ok true ∧
      ¬IsNumberText Char.isDigit "0b0b1".toList := by
  have hone : numberOfText "0b0b1" = doubleOfInt 1 := rfl
  have hnumber : (Value.string "0b0b1").isNumber = (numberOfText "0b0b1").map (!·.isNan) := rfl
  obtain ⟨x, hx⟩ : ∃ x, doubleOfInt 1 = .ok x := by
    cases hx : doubleOfInt 1 with
    | ok x => exact ⟨x, rfl⟩
    | error fault =>
      exact absurd (doubleOfInt_eq_error_iff.mp hx).2 (Nat.not_le.mpr Double.one_lt_overflow)
  have hnan := isNan_of_doubleOfInt hx
  refine ⟨⟨x, hone.trans hx, hnan⟩, ?_, fun htext => ?_⟩
  · rw [hnumber, hone, hx]
    simp [Except.map, hnan]
  · generalize hcs : "0b0b1".toList = cs at htext
    cases htext with
    | decimal hsign hbody =>
      have hread : (decimalNumeral? "0b0b1".toList).isSome := by
        rw [hcs]
        exact decimalNumeral?_isSome_iff.mpr
          ⟨_, hsign, _, hbody.mono fun c _ hdigit => (isDigit_spec hdigit).1, rfl⟩
      exact absurd hread (by decide)
    | radix hmark h =>
      obtain ⟨-, hrest⟩ := List.cons.inj hcs
      obtain ⟨rfl, rfl⟩ := List.cons.inj hrest
      obtain rfl := Option.some.inj hmark
      obtain ⟨value, hless, hvalue⟩ := h.allDigits 'b' (by decide)
      obtain rfl := Option.some.inj hvalue
      exact absurd hless (by decide)
    | infinity hsign =>
      have hnone : ∀ sign ∈ signs, "0b0b1".toList ≠ sign ++ "Infinity".toList := by decide
      exact hnone _ hsign hcs

end Value

end RequestScript
