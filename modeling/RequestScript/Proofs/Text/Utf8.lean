import RequestScript.Text.Lines
import RequestScript.Text.Utf8

/-!
# Plain texts

A text in ASCII is spelled by one byte a character, so nothing in its bytes is misspelled. Without
carriage returns its line endings are what they are.
-/

namespace RequestScript.Text

/-- Every character of a text is in ASCII, and none is a carriage return. -/
def IsPlain (cs : List Char) : Prop :=
  ∀ c ∈ cs, c.toNat < 0x80 ∧ c ≠ '\r'

instance (cs : List Char) : Decidable (IsPlain cs) :=
  List.decidableBAll (fun c : Char => c.toNat < 0x80 ∧ c ≠ '\r') cs

theorem isPlain_append_iff {front back : List Char} :
    IsPlain (front ++ back) ↔ IsPlain front ∧ IsPlain back :=
  List.forall_mem_append

theorem isPlain_cons_iff {c : Char} {rest : List Char} :
    IsPlain (c :: rest) ↔ (c.toNat < 0x80 ∧ c ≠ '\r') ∧ IsPlain rest :=
  List.forall_mem_cons

/-! ## Bytes -/

theorem toList_loop (bytes : ByteArray) (index : Nat) (done : List UInt8) :
    ByteArray.toList.loop bytes index done = done.reverse ++ bytes.data.toList.drop index := by
  rw [ByteArray.toList.loop]
  split
  · next hindex =>
    have hlength : index < bytes.data.toList.length := by simpa using hindex
    have hbyte : bytes.get! index = bytes.data.toList[index] :=
      getElem!_pos bytes.data index hindex
    rw [toList_loop bytes (index + 1), hbyte, List.reverse_cons, List.append_assoc,
      List.singleton_append, List.getElem_cons_drop]
  · next hindex =>
    have hlength : bytes.data.toList.length ≤ index := by simpa using hindex
    rw [List.drop_eq_nil_of_le hlength, List.append_nil]
termination_by bytes.size - index

/-- The bytes of a text are those of its characters. -/
theorem toList_toUTF8 (s : String) :
    s.toUTF8.toList = s.toList.flatMap String.utf8EncodeChar := by
  rw [ByteArray.toList, toList_loop, List.reverse_nil, List.nil_append, List.drop_zero,
    String.toUTF8_eq_toByteArray, ← String.utf8Encode_toList, List.utf8Encode,
    List.toList_data_toByteArray]

theorem fromUTF8?_toUTF8 (s : String) : String.fromUTF8? s.toUTF8 = some s := by
  unfold String.fromUTF8?
  rw [String.toUTF8_eq_toByteArray, dif_pos s.isValidUTF8]
  rfl

/-- A character in ASCII is spelled by one byte. -/
theorem spelled_ascii {c : Char} (h : c.toNat < 0x80) (rest : List UInt8) :
    ∃ byte, String.utf8EncodeChar c = [byte] ∧ spelled (byte :: rest) = .ok 1 := by
  have hval : c.val ≤ 127 := UInt32.le_iff_toNat_le.mpr (Nat.le_of_lt_succ h)
  have hsize : c.utf8Size = 1 := Char.utf8Size_eq_one_iff.mpr hval
  have hbyte : c.val.toUInt8 < 0x80 := by
    rw [UInt8.lt_iff_toNat_lt, UInt32.toNat_toUInt8]
    exact Nat.lt_of_le_of_lt (Nat.mod_le _ _) h
  have hcount : byteCount? c.val.toUInt8 = some 1 := by rw [byteCount?, if_pos hbyte]
  refine ⟨_, String.utf8EncodeChar_eq_singleton hsize, ?_⟩
  rw [spelled, hcount]
  simp

/-- Nothing is misspelled in the bytes of a plain text. -/
theorem misspelled?_of_isPlain {cs : List Char} (h : IsPlain cs) (index : Nat) :
    misspelled? index 0 (cs.flatMap String.utf8EncodeChar) = none := by
  induction cs generalizing index with
  | nil => rfl
  | cons c rest ih =>
    obtain ⟨⟨hc, -⟩, hrest⟩ := isPlain_cons_iff.mp h
    obtain ⟨byte, hbyte, hspelled⟩ := spelled_ascii hc (rest.flatMap String.utf8EncodeChar)
    rw [List.flatMap_cons, hbyte, List.singleton_append, misspelled?, hspelled]
    exact ih hrest (index + 1)

/-! ## Line endings -/

theorem universalNewlines_of_isPlain {cs : List Char} (h : IsPlain cs) :
    universalNewlines cs = cs := by
  induction cs with
  | nil => rfl
  | cons c rest ih =>
    obtain ⟨⟨-, hc⟩, hrest⟩ := isPlain_cons_iff.mp h
    rw [universalNewlines.eq_def]
    split
    · next heq => cases heq
    · next heq => exact absurd (List.cons.inj heq).1 hc
    · next heq =>
      obtain ⟨rfl, rfl⟩ := List.cons.inj heq
      rw [if_neg hc, ih hrest]

end RequestScript.Text
