import RequestScript.Proofs.Text.Numeral
import RequestScript.Value.Reader
import RequestScript.Value.Writer

/-!
# Strings in JSON texts

Every character of a string reads back from what is written for it: as itself, as a short escape, or
as the escapes of its one or two UTF-16 units. So every string reads back.
-/

namespace RequestScript.Value

open Text

/-! ## Units -/

/-- The last hexadecimal digit stands behind those of the rest. -/
theorem hexadecimal_succ (width n : Nat) :
    hexadecimal (width + 2) n = hexadecimal (width + 1) (n / 16) ++ [(n % 16).digitChar] := by
  have hdigits := Nat.toDigits_eq_if (b := 16) (n := n) (by decide)
  by_cases hn : n < 16
  · have hquotient : n / 16 = 0 := Nat.div_eq_of_lt hn
    have hrest : n % 16 = n := Nat.mod_eq_of_lt hn
    rw [if_pos hn] at hdigits
    simp [hexadecimal, hdigits, hquotient, hrest, List.replicate_succ', Nat.toDigits_zero]
  · rw [if_neg hn] at hdigits
    have hwidth : width + 2 - ((Nat.toDigits 16 (n / 16)).length + 1) =
        width + 1 - (Nat.toDigits 16 (n / 16)).length := by omega
    simp only [hexadecimal, hdigits, List.length_append, List.length_singleton, hwidth,
      List.append_assoc]

/-- The four hexadecimal digits of a UTF-16 unit. -/
theorem hexadecimal_four {unit : Nat} (hunit : unit < 0x10000) :
    hexadecimal 4 unit = [(unit / 16 / 16 / 16).digitChar, (unit / 16 / 16 % 16).digitChar,
      (unit / 16 % 16).digitChar, (unit % 16).digitChar] := by
  have hfirst : unit / 16 / 16 / 16 < 16 := by omega
  have hlead : hexadecimal 1 (unit / 16 / 16 / 16) = [(unit / 16 / 16 / 16).digitChar] := by
    rw [hexadecimal, Nat.toDigits_of_lt_base hfirst]
    rfl
  rw [hexadecimal_succ, hexadecimal_succ, hexadecimal_succ, hlead]
  rfl

theorem hexDigitValue?_digitChar {digit : Nat} (h : digit < 16) :
    hexDigitValue? digit.digitChar = some digit := by
  have hall : ∀ digit < 16, hexDigitValue? digit.digitChar = some digit := by decide
  exact hall digit h

/-- The escape of a UTF-16 unit reads back, unless nothing follows it. -/
theorem readUnit_hexadecimal {unit : Nat} (hunit : unit < 0x10000) {rest : List Char}
    (hrest : rest ≠ []) : readUnit ('u' :: hexadecimal 4 unit ++ rest) = .ok (unit, rest) := by
  have hvalue : (unit / 16 / 16 / 16 * 16 + unit / 16 / 16 % 16) * 256 +
      (unit / 16 % 16 * 16 + unit % 16) = unit := by omega
  have hfirst := hexDigitValue?_digitChar (show unit / 16 / 16 / 16 < 16 by omega)
  have hsecond := hexDigitValue?_digitChar (Nat.mod_lt (unit / 16 / 16) (show 0 < 16 by decide))
  have hthird := hexDigitValue?_digitChar (Nat.mod_lt (unit / 16) (show 0 < 16 by decide))
  have hfourth := hexDigitValue?_digitChar (Nat.mod_lt unit (show 0 < 16 by decide))
  have hread : readUnit? (hexadecimal 4 unit ++ rest) = some (unit, rest) := by
    rw [hexadecimal_four hunit]
    simp [readUnit?, hfirst, hsecond, hthird, hfourth, hrest, hvalue]
  have hdrop : ('u' :: hexadecimal 4 unit ++ rest).drop 1 = hexadecimal 4 unit ++ rest := rfl
  rw [readUnit, hdrop, hread]

/-- The code of a character is no half. -/
theorem isHalf_of_char (c : Char) : isHighHalf c.toNat = false ∧ isLowHalf c.toNat = false := by
  have hvalid : c.toNat < 0xd800 ∨ 0xdfff < c.toNat ∧ c.toNat < 0x110000 := c.valid
  simp only [isHighHalf, isLowHalf, Bool.and_eq_false_iff, decide_eq_false_iff_not]
  omega

/-- The escapes of a character read back, unless nothing follows them. -/
theorem readEscapedUnit_unicodeEscape (c : Char) {rest : List Char} (hrest : rest ≠ []) :
    ∃ more, unicodeEscape c ++ rest = '\\' :: 'u' :: more ∧
      readEscapedUnit ('u' :: more) = .ok (c, rest) := by
  have hvalid : c.toNat < 0xd800 ∨ 0xdfff < c.toNat ∧ c.toNat < 0x110000 := c.valid
  unfold unicodeEscape
  split
  · next hone =>
    obtain ⟨hhigh, hlow⟩ := isHalf_of_char c
    have hunit : readUnit ('u' :: (hexadecimal 4 c.toNat ++ rest)) = .ok (c.toNat, rest) :=
      readUnit_hexadecimal hone hrest
    refine ⟨hexadecimal 4 c.toNat ++ rest, rfl, ?_⟩
    rw [readEscapedUnit, hunit]
    simp [bind, Except.bind, pure, Except.pure, hhigh, hlow, charAlone]
  · next htwo =>
    obtain ⟨offset, hoffset⟩ : ∃ offset, c.toNat - 0x10000 = offset := ⟨_, rfl⟩
    simp only [hoffset]
    have hhigh : isHighHalf (0xd800 + offset / 0x400) = true := by
      simp only [isHighHalf, Bool.and_eq_true, decide_eq_true_eq]
      omega
    have hlow : isLowHalf (0xdc00 + offset % 0x400) = true := by
      simp only [isLowHalf, Bool.and_eq_true, decide_eq_true_eq]
      omega
    have hjoin : joinHalves (0xd800 + offset / 0x400) (0xdc00 + offset % 0x400) = c := by
      have hcode : 0x10000 + (0xd800 + offset / 0x400 - 0xd800) * 0x400 +
          (0xdc00 + offset % 0x400 - 0xdc00) = c.toNat := by omega
      rw [joinHalves, hcode, Char.ofNat_toNat]
    have hsecond : readUnit ('u' :: (hexadecimal 4 (0xdc00 + offset % 0x400) ++ rest)) =
        .ok (0xdc00 + offset % 0x400, rest) := readUnit_hexadecimal (by omega) hrest
    have hfirst : readUnit ('u' :: (hexadecimal 4 (0xd800 + offset / 0x400) ++
        ('\\' :: 'u' :: (hexadecimal 4 (0xdc00 + offset % 0x400) ++ rest)))) =
          .ok (0xd800 + offset / 0x400,
            '\\' :: 'u' :: (hexadecimal 4 (0xdc00 + offset % 0x400) ++ rest)) :=
      readUnit_hexadecimal (by omega) (List.cons_ne_nil _ _)
    refine ⟨hexadecimal 4 (0xd800 + offset / 0x400) ++
      ('\\' :: 'u' :: (hexadecimal 4 (0xdc00 + offset % 0x400) ++ rest)), ?_, ?_⟩
    · simp [unitEscape]
    · rw [readEscapedUnit, hfirst]
      simp [bind, Except.bind, pure, Except.pure, hhigh, hsecond, hlow, hjoin]

/-! ## Characters -/

theorem readString_quote (start : List Char) (fuel : Nat) (rest : List Char) :
    readString start (fuel + 1) ('\x22' :: rest) = .ok ([], rest) := by
  rw [readString.eq_def]
  rfl

/-- A short escape is read, and then the string goes on. -/
theorem readString_escape (start : List Char) (fuel : Nat) {letter escaped : Char}
    (hletter : letter ≠ 'u') (hescaped : escapedChar? letter = some escaped) (rest : List Char) :
    readString start (fuel + 1) ('\\' :: letter :: rest) =
      (readString start fuel rest).map fun (cs, final) => (escaped :: cs, final) := by
  rw [readString.eq_def]
  dsimp only
  rw [if_neg (by decide), if_pos rfl]
  split
  · next heq => exact absurd (List.cons.inj heq).1 hletter
  · next heq =>
    obtain ⟨rfl, rfl⟩ := List.cons.inj heq
    rw [hescaped]
    cases readString start fuel rest <;> rfl
  · next heq => cases heq

/-- Escapes of units are read, and then the string goes on. -/
theorem readString_units (start : List Char) (fuel : Nat) {more after : List Char} {c : Char}
    (h : readEscapedUnit ('u' :: more) = .ok (c, after)) :
    readString start (fuel + 1) ('\\' :: 'u' :: more) =
      (readString start fuel after).map fun (cs, final) => (c :: cs, final) := by
  rw [readString.eq_def]
  dsimp only
  rw [if_neg (by decide), if_pos rfl]
  split
  · next heq =>
    obtain ⟨-, rfl⟩ := List.cons.inj heq
    simp only [h, bind, Except.bind]
    cases readString start fuel after <;> rfl
  · next hunit heq => exact (hunit (List.cons.inj heq).1.symm).elim
  · next heq => cases heq

/-- A character that needs no escape is read, and then the string goes on. -/
theorem readString_plain (start : List Char) (fuel : Nat) {c : Char} (hquote : c ≠ '\x22')
    (hescape : c ≠ '\\') (hcontrol : ¬c.toNat < 0x20) (rest : List Char) :
    readString start (fuel + 1) (c :: rest) =
      (readString start fuel rest).map fun (cs, final) => (c :: cs, final) := by
  rw [readString.eq_def]
  dsimp only
  rw [if_neg hquote, if_neg hescape, if_neg hcontrol]

/-- A written character is read, and then the string goes on. -/
theorem readString_writeChar (style : Style) (start : List Char) (c : Char) (fuel : Nat)
    {rest : List Char} (hrest : rest ≠ []) :
    readString start (fuel + 1) (writeChar style c ++ rest) =
      (readString start fuel rest).map fun (cs, final) => (c :: cs, final) := by
  by_cases hself : c = '\x22' ∨ c = '\\'
  · rcases hself with rfl | rfl <;> exact readString_escape start fuel (by decide) (by decide) rest
  by_cases hshort : c ∈ ['\n', '\r', '\t', '\x08', '\x0c']
  · simp only [List.mem_cons, List.not_mem_nil, or_false] at hshort
    rcases hshort with rfl | rfl | rfl | rfl | rfl <;>
      exact readString_escape start fuel (by decide) (by decide) rest
  have hwrite : writeChar style c =
      if c.toNat < 0x20 || (style.asciiOnly && 0x7f ≤ c.toNat) then unicodeEscape c else [c] := by
    simp only [List.mem_cons, List.not_mem_nil, or_false, not_or] at hself hshort
    simp [writeChar, hself, hshort]
  rw [hwrite]
  split
  · obtain ⟨more, htext, hread⟩ := readEscapedUnit_unicodeEscape c hrest
    rw [htext, readString_units start fuel hread]
  · next hplain =>
    rw [not_or] at hself
    simp only [Bool.or_eq_true, decide_eq_true_eq, not_or] at hplain
    exact readString_plain start fuel hself.1 hself.2 hplain.1 rest

/-- **A string reads back.** -/
theorem readString_flatMap (style : Style) (start : List Char) {cs : List Char} {fuel : Nat}
    (hfuel : cs.length < fuel) (rest : List Char) :
    readString start fuel (cs.flatMap (writeChar style) ++ '\x22' :: rest) = .ok (cs, rest) := by
  induction cs generalizing fuel with
  | nil =>
    obtain ⟨fuel, rfl⟩ := Nat.exists_eq_succ_of_ne_zero (Nat.ne_zero_of_lt hfuel)
    exact readString_quote start fuel rest
  | cons c cs ih =>
    obtain ⟨fuel, rfl⟩ := Nat.exists_eq_succ_of_ne_zero (Nat.ne_zero_of_lt hfuel)
    have hmore : cs.length < fuel := Nat.lt_of_succ_lt_succ hfuel
    have hne : cs.flatMap (writeChar style) ++ '\x22' :: rest ≠ [] := by simp
    rw [List.flatMap_cons, List.append_assoc, readString_writeChar style start c fuel hne,
      ih hmore]
    rfl

end RequestScript.Value
