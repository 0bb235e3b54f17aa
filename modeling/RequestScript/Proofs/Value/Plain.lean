import RequestScript.Proofs.Text.Utf8
import RequestScript.Proofs.Value.Numeral
import RequestScript.Proofs.Value.Parts
import RequestScript.Proofs.Value.Strings

/-!
# Plain texts of values

A value that is written for reading is written in ASCII, without carriage returns: what else there
is in a string is escaped.
-/

namespace RequestScript.Value

open Text Double

/-! ## Numbers -/

theorem isPlain_of_digits {cs : List Char} (h : ∀ c ∈ cs, isAsciiDigit c = true) : IsPlain cs := by
  intro c hc
  have hdigit := h c hc
  simp only [isAsciiDigit, Bool.and_eq_true, decide_eq_true_eq] at hdigit
  have hlast : c.toNat ≤ 57 := hdigit.2
  refine ⟨by omega, ?_⟩
  rintro rfl
  exact absurd hdigit.1 (by decide)

theorem isPlain_signed (negative : Bool) {cs : List Char} (h : IsPlain cs) :
    IsPlain (signed negative cs) := by
  cases negative with
  | true => exact isPlain_cons_iff.mpr ⟨by decide, h⟩
  | false => exact h

theorem isPlain_exponentText (exponent : Int) : IsPlain (exponentText exponent) := by
  have hsign : IsPlain [if exponent < 0 then '-' else '+'] := by
    by_cases hneg : exponent < 0 <;> simp [hneg, IsPlain]
  have hdigits : IsPlain (padded 2 exponent.natAbs) :=
    isPlain_of_digits fun c hc => isDigit_of_mem_padded hc
  exact isPlain_cons_iff.mpr ⟨by decide, isPlain_append_iff.mpr ⟨hsign, hdigits⟩⟩

theorem isPlain_numeral {numeral : Numeral} (h : numeral.WellFormed) : IsPlain numeral.text := by
  refine isPlain_append_iff.mpr ⟨isPlain_append_iff.mpr ⟨isPlain_of_digits h.whole, ?_⟩, ?_⟩
  · cases hfraction : numeral.fraction with
    | none => exact nofun
    | some fraction =>
      exact isPlain_cons_iff.mpr ⟨by decide, isPlain_of_digits (h.fraction _ hfraction).2⟩
  · cases numeral.exponent with
    | none => exact nofun
    | some exponent => exact isPlain_exponentText exponent

theorem isPlain_writeDouble (x : Double) : IsPlain (writeDouble x) := by
  cases x with
  | nan => decide
  | infinite negative =>
    exact isPlain_signed negative (by decide)
  | finite negative code =>
    obtain ⟨numeral, hnumeral, htext, -⟩ := exists_numeral code.isLt
    rw [writeDouble_finite, htext]
    exact isPlain_signed negative (isPlain_numeral hnumeral)

/-! ## Strings -/

theorem isPlain_unitEscape {unit : Nat} (hunit : unit < 0x10000) : IsPlain (unitEscape unit) := by
  have hdigit {digit : Nat} (h : digit < 16) :
      digit.digitChar.toNat < 0x80 ∧ digit.digitChar ≠ '\r' := by
    have hall : ∀ digit < 16, digit.digitChar.toNat < 0x80 ∧ digit.digitChar ≠ '\r' := by decide
    exact hall digit h
  rw [unitEscape, hexadecimal_four hunit]
  simp only [isPlain_cons_iff]
  refine ⟨by decide, by decide, hdigit (by omega), hdigit (by omega), hdigit (by omega),
    hdigit (by omega), List.forall_mem_nil _⟩

theorem isPlain_unicodeEscape (c : Char) : IsPlain (unicodeEscape c) := by
  have hvalid : c.toNat < 0xd800 ∨ 0xdfff < c.toNat ∧ c.toNat < 0x110000 := c.valid
  unfold unicodeEscape
  split
  · next hsmall => exact isPlain_unitEscape hsmall
  · exact isPlain_append_iff.mpr ⟨isPlain_unitEscape (by omega), isPlain_unitEscape (by omega)⟩

theorem isPlain_writeChar (c : Char) : IsPlain (writeChar .pretty c) := by
  unfold writeChar
  split
  · next hself =>
    simp only [Bool.or_eq_true, decide_eq_true_eq] at hself
    rcases hself with rfl | rfl <;> decide
  repeat' split
  all_goals first | exact isPlain_unicodeEscape c | decide | skip
  · next hcontrol =>
    simp only [Style.pretty, Bool.true_and, Bool.or_eq_true, decide_eq_true_eq, not_or] at hcontrol
    refine isPlain_cons_iff.mpr ⟨⟨by omega, ?_⟩, nofun⟩
    rintro rfl
    exact absurd hcontrol.1 (by decide)

theorem isPlain_writeString (s : String) : IsPlain (writeString .pretty s) := by
  refine isPlain_cons_iff.mpr ⟨by decide, isPlain_append_iff.mpr ⟨?_, by decide⟩⟩
  intro c hc
  obtain ⟨written, -, hmem⟩ := List.mem_flatMap.mp hc
  exact isPlain_writeChar written c hmem

/-! ## Arrays and objects -/

theorem isPlain_lineBreak (level : Nat) : IsPlain (lineBreak .pretty level) := by
  refine isPlain_cons_iff.mpr ⟨by decide, fun c hc => ?_⟩
  rw [List.eq_of_mem_replicate hc]
  decide

theorem isPlain_writeItems {items : List Value}
    (h : ∀ item ∈ items, ∀ level, IsPlain (item.write .pretty level)) (level : Nat) :
    IsPlain (writeItems .pretty level items) := by
  induction items with
  | nil => exact nofun
  | cons item rest ih =>
    obtain ⟨hitem, hrest⟩ := List.forall_mem_cons.mp h
    rw [writeItems_cons, List.append_assoc, List.cons_append, isPlain_cons_iff, isPlain_append_iff,
      isPlain_append_iff]
    exact ⟨by decide, isPlain_lineBreak level, hitem level, ih hrest⟩

theorem isPlain_writeField {field : String × Value}
    (h : ∀ level, IsPlain (field.2.write .pretty level)) (level : Nat) :
    IsPlain (writeField .pretty level field) := by
  obtain ⟨name, value⟩ := field
  rw [writeField_mk, isPlain_append_iff, isPlain_append_iff]
  exact ⟨⟨isPlain_writeString name, by decide⟩, h level⟩

theorem isPlain_writeFields {fields : Table Value}
    (h : ∀ field ∈ fields, ∀ level, IsPlain (field.2.write .pretty level)) (level : Nat) :
    IsPlain (writeFields .pretty level fields) := by
  induction fields with
  | nil => exact nofun
  | cons field rest ih =>
    obtain ⟨hfield, hrest⟩ := List.forall_mem_cons.mp h
    rw [writeFields_cons, List.append_assoc, List.cons_append, isPlain_cons_iff, isPlain_append_iff,
      isPlain_append_iff]
    exact ⟨by decide, isPlain_lineBreak level, isPlain_writeField hfield level, ih hrest⟩

/-- **The text of a value that is written for reading is plain.** -/
theorem isPlain_write (value : Value) (level : Nat) : IsPlain (value.write .pretty level) := by
  induction value using inductionOn generalizing level with
  | h value ih =>
    cases value with
    | null => exact (by decide : IsPlain "null".toList)
    | bool b =>
      cases b
      · exact (by decide : IsPlain "false".toList)
      · exact (by decide : IsPlain "true".toList)
    | int n =>
      rw [write_int, decimalInt_eq_signed]
      exact isPlain_signed _ (isPlain_of_digits fun c hc => isDigit_of_mem_decimal hc)
    | double x => exact isPlain_writeDouble x
    | string s => exact isPlain_writeString s
    | array items =>
      cases items with
      | nil =>
        rw [write_array_nil]
        decide
      | cons item items =>
        obtain ⟨hitem, hitems⟩ := List.forall_mem_cons.mp ih
        simp only [write_array_cons, isPlain_append_iff, isPlain_cons_iff, isPlain_lineBreak, hitem,
          isPlain_writeItems hitems]
        decide
    | object fields =>
      have hvalues : ∀ field ∈ fields, ∀ level, IsPlain (field.2.write .pretty level) :=
        fun field hfield => ih field.2 (List.mem_map_of_mem hfield)
      cases fields with
      | nil =>
        rw [write_object_nil]
        decide
      | cons field fields =>
        obtain ⟨hfield, hfields⟩ := List.forall_mem_cons.mp hvalues
        simp only [write_object_cons, isPlain_append_iff, isPlain_cons_iff, isPlain_lineBreak,
          isPlain_writeField hfield, isPlain_writeFields hfields]
        decide

end RequestScript.Value
