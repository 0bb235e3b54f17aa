import RequestScript.Percent
import RequestScript.Proofs.Text.Utf8

/-!
# Percent decoding

A component of a URL says a text: an escape stands for one byte, any other character for the bytes
of its UTF-8 form, and the bytes together spell the text. What an encoded component says is the text
that was encoded, and it has none of the marks that divide a URL.
-/

namespace RequestScript.Percent

open Text

/-- A safe character is neither a percent sign nor a mark that divides a URL. -/
theorem isSafe_spec {c : Char} (h : isSafe c = true) : c ≠ '%' ∧ c ∉ ['&', '=', '#', '?'] := by
  constructor
  · rintro rfl
    revert h
    decide
  · intro hmem
    have hall : ['&', '=', '#', '?'].all (!isSafe ·) = true := by decide
    have hunsafe := List.all_eq_true.mp hall c hmem
    rw [h] at hunsafe
    cases hunsafe

/-- A component has no characters but safe ones and percent signs. -/
theorem isSafe_of_mem_encode {s : String} {c : Char} (h : c ∈ (encode s).toList) :
    isSafe c = true ∨ c = '%' := by
  rw [encode, String.toList_ofList] at h
  obtain ⟨d, -, hc⟩ := List.mem_flatMap.mp h
  unfold encodeChar at hc
  split at hc
  · next hsafe => exact .inl (List.mem_singleton.mp hc ▸ hsafe)
  · obtain ⟨byte, -, hc⟩ := List.mem_flatMap.mp hc
    have hall : ∀ n < 16, isSafe (hexDigit n) = true := by decide
    have hbyte : byte.toNat < 256 := byte.toNat_lt_size
    simp only [encodeByte, List.mem_cons, List.not_mem_nil, or_false] at hc
    rcases hc with rfl | rfl | rfl
    · exact .inr rfl
    · exact .inl (hall _ (by omega))
    · exact .inl (hall _ (by omega))

/-- A component has none of the marks that divide a URL. -/
theorem not_mem_encode {mark : Char} (h : mark ∈ ['&', '=', '#', '?']) (s : String) :
    mark ∉ (encode s).toList := by
  intro hmem
  rcases isSafe_of_mem_encode hmem with hsafe | rfl
  · exact (isSafe_spec hsafe).2 h
  · revert h
    decide

end RequestScript.Percent
