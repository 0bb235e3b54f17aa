import Mathlib.Order.Lattice
import RequestScript.Proofs.Generator
import RequestScript.Proofs.Text.IntegerNumeral
import RequestScript.Text.Integer

/-!
# Random integers between two bounds

The argument of a random integer gives two bounds in either order, or one bound besides zero. An
argument that is missing, or of which a bound cannot be read, asks for the range from 0 to 1000.
Every draw gives an integer of the range, and every integer of the range can be drawn.
-/

namespace RequestScript

open Text

namespace Chance

variable {low high : Int}

/-- An integer between two bounds is drawn with one draw, which counts from the lower bound and
starts again behind the upper one. -/
theorem on_between (low high : Int) (dice : Dice) :
    (between low high).on dice =
      (.ok (low + (dice.source dice.used).emod (high - low + 1)),
        { dice with used := dice.used + 1 }) :=
  rfl

/-- A rest of a draw does not lead out of the bounds. -/
theorem add_emod_mem (h : low ≤ high) (draw : Int) :
    low ≤ low + draw.emod (high - low + 1) ∧ low + draw.emod (high - low + 1) ≤ high := by
  have hpos : 0 < high - low + 1 := by omega
  have hnonneg := Int.emod_nonneg draw hpos.ne'
  have hless := Int.emod_lt_of_pos draw hpos
  change 0 ≤ draw.emod (high - low + 1) at hnonneg
  change draw.emod (high - low + 1) < high - low + 1 at hless
  omega

/-- An integer between the bounds is drawn by its distance from the lower one. -/
theorem add_emod_sub {n : Int} (hlow : low ≤ n) (hhigh : n ≤ high) :
    low + (n - low).emod (high - low + 1) = n := by
  have hrest : (n - low).emod (high - low + 1) = n - low := Int.emod_eq_of_lt (by omega) (by omega)
  omega

end Chance

namespace Generator

/-- The parts of an argument that give its bounds: the first two between colons, or else between
commas. -/
def boundTexts (text : List Char) : List (List Char) :=
  (pieces (if ':' ∈ text then ':' else ',') text).take 2

/-- The bounds that an argument asks for. -/
inductive AsksBetween : Option (List Char) → Int → Int → Prop
  /-- Two bounds. -/
  | both {text first second : List Char} {low high : Int} : boundTexts text = [first, second] →
      IsInteger first low → IsInteger second high → AsksBetween (some text) low high
  /-- One bound, the other one being zero. -/
  | upTo {text only : List Char} {high : Int} : boundTexts text = [only] →
      IsInteger only high → AsksBetween (some text) 0 high
  /-- A bound that cannot be read. -/
  | unread {text part : List Char} : part ∈ boundTexts text → (∀ n, ¬IsInteger part n) →
      AsksBetween (some text) 0 1000
  /-- No argument. -/
  | absent : AsksBetween none 0 1000

/-- The call of a random integer with an argument. -/
def randomIntCall (argument : Option (List Char)) : List Char :=
  "$randomInt".toList ++ argument.elim [] (':' :: ·)

/-- The bounds between which a random integer is drawn. -/
def rangeOf (arguments : List (List Char)) : Int × Int :=
  match bounds? readInt? 0 1000 arguments with
  | some (low, high, _) => (low, high)
  | none => (0, 1000)

/-! ## Bounds -/

/-- A text with a separator has two pieces at least. -/
theorem exists_pieces_of_mem {separator : Char} {cs : List Char} (h : separator ∈ cs) :
    ∃ first second rest, pieces separator cs = first :: second :: rest := by
  obtain ⟨front, back, rfl, hfront⟩ := List.eq_append_cons_of_mem h
  obtain ⟨piece, more, hback⟩ := List.exists_cons_of_ne_nil (pieces_ne_nil separator back)
  exact ⟨front, piece, more, by rw [pieces_append, pieces_of_not_mem hfront, hback]; rfl⟩

/-- Two bounds are read if both of them can be read. -/
theorem rangeOf_cons_cons (first second : List Char) (rest : List (List Char)) :
    rangeOf (first :: second :: rest) =
      ((readInt? first).bind fun low => (readInt? second).map fun high => (low, high)).getD
        (0, 1000) := by
  unfold rangeOf bounds?
  cases hfirst : readInt? first <;> cases hsecond : readInt? second <;> simp [hfirst, hsecond]

/-- The bounds are read from the first two parts of an argument, or from the only one. -/
theorem rangeOf_pieces (text : List Char) :
    (∃ first second, boundTexts text = [first, second] ∧
        rangeOf (pieces ':' text) =
          ((readInt? first).bind fun low => (readInt? second).map fun high => (low, high)).getD
            (0, 1000)) ∨
      ∃ only, boundTexts text = [only] ∧
        rangeOf (pieces ':' text) = ((readInt? only).map fun high => (0, high)).getD (0, 1000) := by
  by_cases hcolon : ':' ∈ text
  · obtain ⟨first, second, rest, hparts⟩ := exists_pieces_of_mem hcolon
    refine .inl ⟨first, second, by rw [boundTexts, if_pos hcolon, hparts]; rfl, ?_⟩
    rw [hparts, rangeOf_cons_cons]
  · -- Without a colon the argument is one part, and a comma may divide it.
    rw [pieces_of_not_mem hcolon]
    by_cases hcomma : ',' ∈ text
    · obtain ⟨first, second, rest, hparts⟩ := exists_pieces_of_mem hcomma
      refine .inl ⟨first, second, by rw [boundTexts, if_neg hcolon, hparts]; rfl, ?_⟩
      have hcommas : rangeOf [text] = rangeOf (first :: second :: rest) := by
        rw [rangeOf, bounds?, if_pos (List.contains_iff_mem.mpr hcomma), hparts]
        rfl
      rw [hcommas, rangeOf_cons_cons]
    · refine .inr ⟨text, by rw [boundTexts, if_neg hcolon, pieces_of_not_mem hcomma]; rfl, ?_⟩
      rw [rangeOf, bounds?, if_neg (by simpa using hcomma)]
      cases text with
      | nil => rfl
      | cons c rest => cases readInt? (c :: rest) <;> rfl

/-- A part of an argument that is not read as an integer is a numeral of none. -/
theorem forall_not_isInteger {cs : List Char} (h : readInt? cs = none) (n : Int) :
    ¬IsInteger cs n := by
  rw [← readInt?_eq_some_iff, h]
  exact nofun

/-- The bounds that an argument asks for are the ones read from it. -/
theorem AsksBetween.eq {argument : Option (List Char)} {low high : Int}
    (h : AsksBetween argument low high) :
    rangeOf (argument.elim [] (pieces ':')) = (low, high) := by
  cases h with
  | absent => rfl
  | @both text first second low high hparts hfirst hsecond =>
    rcases rangeOf_pieces text with ⟨first', second', hparts', hrange⟩ | ⟨only, honly, -⟩
    · obtain ⟨rfl, rfl⟩ : first = first' ∧ second = second' := by simpa [hparts] using hparts'
      rw [Option.elim_some, hrange, readInt?_eq_some_iff.mpr hfirst,
        readInt?_eq_some_iff.mpr hsecond]
      rfl
    · simp [hparts] at honly
  | @upTo text only high hpart honly =>
    rcases rangeOf_pieces text with ⟨first, second, hparts, -⟩ | ⟨only', hpart', hrange⟩
    · simp [hpart] at hparts
    · obtain rfl : only = only' := by simpa [hpart] using hpart'
      rw [Option.elim_some, hrange, readInt?_eq_some_iff.mpr honly]
      rfl
  | @unread text part hpart hnone =>
    have hread : readInt? part = none := by
      rw [Option.eq_none_iff_forall_ne_some]
      exact fun n hn => hnone n (readInt?_eq_some_iff.mp hn)
    rw [Option.elim_some]
    rcases rangeOf_pieces text with ⟨first, second, hparts, hrange⟩ | ⟨only, honly, hrange⟩
    · rw [hparts, List.mem_pair] at hpart
      rcases hpart with rfl | rfl
      · rw [hrange, hread]
        rfl
      · rw [hrange, hread]
        cases readInt? first <;> rfl
    · rw [honly, List.mem_singleton] at hpart
      rw [hrange, ← hpart, hread]
      rfl

/-- Every argument asks for the bounds that are read from it. -/
theorem asksBetween_rangeOf (argument : Option (List Char)) :
    AsksBetween argument (rangeOf (argument.elim [] (pieces ':'))).1
      (rangeOf (argument.elim [] (pieces ':'))).2 := by
  cases argument with
  | none => exact .absent
  | some text =>
    rw [Option.elim_some]
    rcases rangeOf_pieces text with ⟨first, second, hparts, hrange⟩ | ⟨only, honly, hrange⟩
    · rw [hrange]
      cases hfirst : readInt? first with
      | none => exact .unread (by simp [hparts]) (forall_not_isInteger hfirst)
      | some low =>
        cases hsecond : readInt? second with
        | none => exact .unread (by simp [hparts]) (forall_not_isInteger hsecond)
        | some high =>
          exact .both hparts (readInt?_eq_some_iff.mp hfirst) (readInt?_eq_some_iff.mp hsecond)
    · rw [hrange]
      cases hread : readInt? only with
      | none => exact .unread (by simp [honly]) (forall_not_isInteger hread)
      | some high => exact .upTo honly (readInt?_eq_some_iff.mp hread)

/-! ## Length -/

/-- A numeral that can be read denotes an integer that can be written. -/
theorem isTooLong_of_isInteger {cs : List Char} {n : Int} (h : IsInteger cs n) :
    isTooLong n = false := by
  obtain @⟨before, sign, body, digits, after, -, -, -, hlength⟩ := h
  -- The limit stays a variable here, so that its power of ten is not computed.
  have hsmall {limit : Nat} (h : digits.length ≤ limit) : natOfDigits digits < Nat.pow 10 limit :=
    Nat.lt_of_lt_of_le (natOfDigits_lt digits) (Nat.pow_le_pow_right (by decide) h)
  have habs : (if sign = ['-'] then -(natOfDigits digits : Int) else natOfDigits digits).natAbs =
      natOfDigits digits := by
    split <;> simp
  simp only [isTooLong, habs, decide_eq_false_iff_not]
  exact Nat.not_le.mpr (hsmall hlength)

/-- The bounds that an argument asks for can be written. -/
theorem AsksBetween.isTooLong {argument : Option (List Char)} {low high : Int}
    (h : AsksBetween argument low high) :
    Text.isTooLong low = false ∧ Text.isTooLong high = false := by
  have hzero : Text.isTooLong 0 = false := by decide +kernel
  have hthousand : Text.isTooLong 1000 = false := by decide +kernel
  cases h with
  | both _ hfirst hsecond => exact ⟨isTooLong_of_isInteger hfirst, isTooLong_of_isInteger hsecond⟩
  | upTo _ honly => exact ⟨hzero, isTooLong_of_isInteger honly⟩
  | unread | absent => exact ⟨hzero, hthousand⟩

/-- What lies between two integers that can be written can be written. -/
theorem isTooLong_of_between {low high n : Int} (hlow : Text.isTooLong low = false)
    (hhigh : Text.isTooLong high = false) (hmin : min low high ≤ n) (hmax : n ≤ max low high) :
    Text.isTooLong n = false := by
  simp only [Text.isTooLong, decide_eq_false_iff_not] at hlow hhigh ⊢
  generalize Nat.pow 10 digitLimit = limit at hlow hhigh ⊢
  omega

/-! ## Calls -/

/-- A name alone calls its generator without arguments. -/
theorem generate?_name (generator : Generator) (clock : Int) :
    generate? clock generator.name.toList = return some (← generate clock [] generator) := by
  have hcall : call? generator.name.toList = some (generator, []) := by
    rw [call?, pieces_of_not_mem generator.colon_not_mem_name]
    simp [ofName?_name]
  rw [generate?, hcall]

theorem generate?_randomIntCall (clock : Int) (argument : Option (List Char)) :
    generate? clock (randomIntCall argument) =
      return some (← randomInteger (argument.elim [] (pieces ':'))) := by
  cases argument with
  | none => exact generate?_name .randomInt clock
  | some text => exact generate?_name_append .randomInt clock text

/-- A random integer is drawn with one draw, which counts from the lower bound and starts again
behind the upper one. -/
theorem on_generate?_randomIntCall {argument : Option (List Char)} {low high : Int}
    (h : AsksBetween argument low high) (clock : Int) (dice : Dice) :
    (generate? clock (randomIntCall argument)).on dice =
      (.ok (some (decimalInt (min low high +
          (dice.source dice.used).emod (max low high - min low high + 1)))),
        { dice with used := dice.used + 1 }) := by
  have hinteger (arguments : List (List Char)) : randomInteger arguments =
      Chance.between (min (rangeOf arguments).1 (rangeOf arguments).2)
        (max (rangeOf arguments).1 (rangeOf arguments).2) >>= fun n => pure (decimalInt n) :=
    rfl
  rw [generate?_randomIntCall, hinteger, h.eq, Chance.on_bind, Chance.on_bind,
    Chance.on_between]
  rfl

/-- **What a random integer is**. An argument asks for one pair of bounds, and nothing stops its
call: the integer lies between them, whatever is drawn, and it can be written. Every integer
between the bounds is drawn at some dice. -/
theorem generate?_randomInt (clock : Int) (argument : Option (List Char)) :
    ∃ low high : Int,
      (∀ first last, AsksBetween argument first last ↔ first = low ∧ last = high) ∧
      (∀ dice : Dice, ∃ n : Int, min low high ≤ n ∧ n ≤ max low high ∧
        n = min low high + (dice.source dice.used).emod (max low high - min low high + 1) ∧
        (generate? clock (randomIntCall argument)).on dice =
          (.ok (some (decimalInt n)), { dice with used := dice.used + 1 }) ∧
        integerText n = .ok (String.ofList (decimalInt n))) ∧
      ∀ n : Int, min low high ≤ n → n ≤ max low high → ∃ dice : Dice,
        ((generate? clock (randomIntCall argument)).on dice).1 = .ok (some (decimalInt n)) := by
  obtain ⟨low, high, hrange⟩ : ∃ low high, AsksBetween argument low high :=
    ⟨_, _, asksBetween_rangeOf argument⟩
  refine ⟨low, high, fun first last => ⟨fun h => ?_, ?_⟩, fun dice => ?_, fun n hmin hmax => ?_⟩
  · exact Prod.mk.inj (h.eq.symm.trans hrange.eq)
  · rintro ⟨rfl, rfl⟩
    exact hrange
  · obtain ⟨hmin, hmax⟩ := Chance.add_emod_mem (min_le_max (a := low) (b := high))
      (dice.source dice.used)
    refine ⟨_, hmin, hmax, rfl, on_generate?_randomIntCall hrange clock dice, ?_⟩
    have hshort := isTooLong_of_between hrange.isTooLong.1 hrange.isTooLong.2 hmin hmax
    rw [integerText, hshort]
    rfl
  · refine ⟨{ source := fun _ => n - min low high }, ?_⟩
    rw [on_generate?_randomIntCall hrange clock, Chance.add_emod_sub hmin hmax]

end Generator

end RequestScript
