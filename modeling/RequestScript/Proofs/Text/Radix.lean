import RequestScript.Proofs.Double.Grammar

/-!
# The grammar of numerals with a radix mark

A numeral with a radix mark is a zero, the letter of a base and digits of that base. One that is
binary is read with a second mark as well, since the letter of the mark is a hexadecimal digit.
-/

namespace RequestScript

namespace Text

/-- A text of digits of a base, at least one of them. -/
structure IsInBase (base : Nat) (cs : List Char) : Prop where
  /-- There are digits. -/
  ne_nil : cs ≠ []
  /-- There is nothing else. -/
  allDigits : ∀ c ∈ cs, ∃ value < base, hexDigitValue? c = some value

/-- The number that a text of digits of a base denotes. -/
def numberInBase (base : Nat) (cs : List Char) : Nat :=
  cs.foldl (fun n c => base * n + (hexDigitValue? c).getD 0) 0

/-- A text is a numeral with a radix mark, and denotes a number. -/
inductive IsRadixNumeral : List Char → Nat → Prop
  /-- It has one mark. -/
  | plain {base : Nat} {mark : Char} {digits : List Char} (hmark : radix? mark = some base)
    (h : IsInBase base digits) : IsRadixNumeral ('0' :: mark :: digits) (numberInBase base digits)
  /-- It is binary and has two marks. -/
  | repeated {mark again : Char} {digits : List Char} (hmark : radix? mark = some 2)
    (hagain : radix? again = some 2) (h : IsInBase 2 digits) :
    IsRadixNumeral ('0' :: mark :: '0' :: again :: digits) (numberInBase 2 digits)

/-! ## Digits -/

theorem toNat_lt_of_hexDigitValue? {c : Char} (h : (hexDigitValue? c).isSome) :
    c.toNat < 0x80 := by
  have hlast : c ≤ 'f' := by
    unfold hexDigitValue? at h
    simp only [Bool.and_eq_true, decide_eq_true_eq] at h
    split at h
    · next hrange => exact Char.le_trans hrange.2 (by decide)
    split at h
    · next hrange => exact hrange.2
    split at h
    · next hrange => exact Char.le_trans hrange.2 (by decide)
    · cases h
  have hcode : c.toNat ≤ 'f'.toNat := hlast
  have hsmall : 'f'.toNat < 0x80 := by decide
  omega

/-- A hexadecimal digit is a digit in any base that is large enough. -/
theorem radixDigitValue?_eq {c : Char} (h : (hexDigitValue? c).isSome) :
    radixDigitValue? c = hexDigitValue? c :=
  of_toNat_lt (P := fun c => (hexDigitValue? c).isSome →
    radixDigitValue? c = hexDigitValue? c) (by decide) (toNat_lt_of_hexDigitValue? h) h

/-- What is read when a digit comes behind a number. -/
def nextDigit? (base n : Nat) (c : Char) : Option Nat := do
  let digit ← radixDigitValue? c
  if digit < base then some (base * n + digit) else none

/-- Hexadecimal digits are read where each of them belongs to the base. -/
theorem readDigits?_eq_some_iff {base n : Nat} {cs : List Char}
    (hhex : ∀ c ∈ cs, (hexDigitValue? c).isSome) :
    readDigits? base cs = some n ↔ IsInBase base cs ∧ n = numberInBase base cs := by
  have hfold (start : Nat) : cs.foldlM (nextDigit? base) start = some n ↔
      (∀ c ∈ cs, ∃ value < base, hexDigitValue? c = some value) ∧
        n = cs.foldl (fun n c => base * n + (hexDigitValue? c).getD 0) start := by
    induction cs generalizing start with
    | nil => simp [eq_comm]
    | cons c rest ih =>
      obtain ⟨hc, hrest⟩ := List.forall_mem_cons.mp hhex
      obtain ⟨value, hvalue⟩ := Option.isSome_iff_exists.mp hc
      have hnext : nextDigit? base start c =
          if value < base then some (base * start + value) else none := by
        rw [nextDigit?, radixDigitValue?_eq hc, hvalue]
        rfl
      rw [List.foldlM_cons, List.foldl_cons, List.forall_mem_cons, hvalue, hnext]
      by_cases hless : value < base
      · simp [hless, ih hrest]
      · simp [hless]
  rw [readDigits?]
  cases cs with
  | nil => exact iff_of_false nofun fun h => h.1.ne_nil rfl
  | cons c rest =>
    rw [List.isEmpty_cons, if_neg Bool.false_ne_true]
    refine (hfold 0).trans ?_
    exact and_congr_left fun _ => ⟨fun h => ⟨List.cons_ne_nil c rest, h⟩, IsInBase.allDigits⟩

/-! ## Marks -/

theorem mem_of_radix? {mark : Char} {base : Nat} (h : radix? mark = some base) :
    (mark, base) ∈ [('x', 16), ('X', 16), ('o', 8), ('O', 8), ('b', 2), ('B', 2)] := by
  simp only [radix?, Bool.or_eq_true, decide_eq_true_eq] at h
  split at h
  · next hmark =>
    obtain rfl := Option.some.inj h
    rcases hmark with rfl | rfl <;> simp
  split at h
  · next hmark =>
    obtain rfl := Option.some.inj h
    rcases hmark with rfl | rfl <;> simp
  split at h
  · next hmark =>
    obtain rfl := Option.some.inj h
    rcases hmark with rfl | rfl <;> simp
  · cases h

/-- Only the mark of base two is a hexadecimal digit, which is none of base two. -/
theorem base_eq_two {mark : Char} {base : Nat} (hmark : radix? mark = some base)
    (hhex : (hexDigitValue? mark).isSome) : base = 2 ∧ hexDigitValue? mark = some 11 := by
  have hmem := mem_of_radix? hmark
  simp only [List.mem_cons, Prod.mk.injEq, List.not_mem_nil, or_false] at hmem
  rcases hmem with ⟨rfl, rfl⟩ | ⟨rfl, rfl⟩ | ⟨rfl, rfl⟩ | ⟨rfl, rfl⟩ | ⟨rfl, rfl⟩ | ⟨rfl, rfl⟩ <;>
    revert hhex <;> decide

theorem isSome_of_radix?_two {mark : Char} (h : radix? mark = some 2) :
    (hexDigitValue? mark).isSome := by
  have hmem := mem_of_radix? h
  simp only [List.mem_cons, Prod.mk.injEq, List.not_mem_nil, or_false] at hmem
  rcases hmem with ⟨_, hbase⟩ | ⟨_, hbase⟩ | ⟨_, hbase⟩ | ⟨_, hbase⟩ | ⟨rfl, _⟩ | ⟨rfl, _⟩
  any_goals cases hbase
  all_goals decide

theorem IsInBase.isSome {base : Nat} {cs : List Char} (h : IsInBase base cs) :
    ∀ c ∈ cs, (hexDigitValue? c).isSome := by
  intro c hc
  obtain ⟨value, -, hvalue⟩ := h.allDigits c hc
  exact hvalue ▸ rfl

/-- Digits of a base do not start with its mark. -/
theorem IsInBase.dropRadixMark_eq {base : Nat} {cs : List Char} (h : IsInBase base cs) :
    dropRadixMark base cs = cs := by
  unfold dropRadixMark
  split
  · next mark digits =>
    split
    · next hmark =>
      obtain ⟨value, hless, hvalue⟩ := h.allDigits mark (by simp)
      obtain ⟨rfl, heleven⟩ := base_eq_two hmark (hvalue ▸ rfl)
      rw [hvalue] at heleven
      obtain rfl := Option.some.inj heleven
      omega
    · rfl
  · rfl

/-- **Which texts are numerals with a radix mark**, and what they denote. -/
theorem radixNumeral?_eq_some_iff {cs : List Char} {n : Nat} :
    Value.radixNumeral? cs = some n ↔ IsRadixNumeral cs n := by
  constructor
  · intro hread
    unfold Value.radixNumeral? at hread
    split at hread
    · next mark digits =>
      obtain ⟨base, hmark, hdigits⟩ := Option.bind_eq_some_iff.mp hread
      split at hdigits
      · next hhex =>
        have hhex : ∀ c ∈ digits, (hexDigitValue? c).isSome := List.all_eq_true.mp hhex
        -- A second mark may stand among the digits, and is dropped before they are read.
        unfold readMarked? dropRadixMark at hdigits
        split at hdigits
        · next again more _ =>
          split at hdigits
          · next hagain =>
            obtain ⟨rfl, -⟩ := base_eq_two hagain (hhex again (by simp))
            obtain ⟨hmore, rfl⟩ := (readDigits?_eq_some_iff fun c hc =>
              hhex c (List.mem_cons_of_mem _ (List.mem_cons_of_mem _ hc))).mp hdigits
            exact .repeated hmark hagain hmore
          · obtain ⟨hall, rfl⟩ := (readDigits?_eq_some_iff hhex).mp hdigits
            exact .plain hmark hall
        · obtain ⟨hall, rfl⟩ := (readDigits?_eq_some_iff hhex).mp hdigits
          exact .plain hmark hall
      · cases hdigits
    · cases hread
  · intro h
    cases h with
    | plain hmark h =>
      have hread := (readDigits?_eq_some_iff h.isSome).mpr ⟨h, rfl⟩
      have hhex := List.all_eq_true.mpr h.isSome
      simp only [Value.radixNumeral?, hmark, Option.bind_eq_bind, Option.bind_some, hhex, if_true,
        readMarked?, h.dropRadixMark_eq, hread]
    | @repeated mark again digits hmark hagain h =>
      have hread := (readDigits?_eq_some_iff h.isSome).mpr ⟨h, rfl⟩
      have hhex : (('0' :: again :: digits).all fun c => (hexDigitValue? c).isSome) = true :=
        List.all_eq_true.mpr (List.forall_mem_cons.mpr
          ⟨rfl, List.forall_mem_cons.mpr ⟨isSome_of_radix?_two hagain, h.isSome⟩⟩)
      simp only [Value.radixNumeral?, hmark, Option.bind_eq_bind, Option.bind_some, hhex, if_true,
        readMarked?, dropRadixMark, hagain, hread]

/-- A numeral with a radix mark is no decimal: its mark is neither a digit nor between digits. -/
theorem IsRadixNumeral.decimalNumeral?_eq_none {cs : List Char} {n : Nat}
    (h : IsRadixNumeral cs n) : Value.decimalNumeral? cs = none := by
  obtain ⟨base, mark, rest, hmark, rfl⟩ :
      ∃ base mark rest, radix? mark = some base ∧ cs = '0' :: mark :: rest := by
    cases h with
    | plain hmark => exact ⟨_, _, _, hmark, rfl⟩
    | repeated hmark => exact ⟨_, _, _, hmark, rfl⟩
  refine Option.not_isSome_iff_eq_none.mp fun hread => ?_
  obtain ⟨sign, hsign, body, hbody, hcs⟩ := Value.decimalNumeral?_isSome_iff.mp hread
  have hin : mark ∈ sign ++ body := hcs ▸ List.mem_cons_of_mem '0' List.mem_cons_self
  have hdecimal : isDigit mark = true ∨ mark ∈ punctuation := by
    rcases List.mem_append.mp hin with hmem | hmem
    · exact .inr (subset_punctuation sign hsign hmem)
    · exact hbody.forall_mem mark hmem
  have hletters := mem_of_radix? hmark
  simp only [List.mem_cons, Prod.mk.injEq, List.not_mem_nil, or_false] at hletters
  revert hdecimal
  rcases hletters with ⟨rfl, -⟩ | ⟨rfl, -⟩ | ⟨rfl, -⟩ | ⟨rfl, -⟩ | ⟨rfl, -⟩ | ⟨rfl, -⟩ <;> decide

end Text

end RequestScript
