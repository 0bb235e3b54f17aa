import RequestScript.Text.Blank
import RequestScript.Text.Word

/-!
# Word characters and blanks

No word character is a blank: the tables of the two classes have no code point in common.
-/

namespace RequestScript.Text

/-- Ranges that lie apart have no character in common. -/
theorem inRanges_eq_false_of_apart {first second : Ranges} {c : Char}
    (hapart : ∀ range ∈ first, ∀ other ∈ second, range.2 < other.1 ∨ other.2 < range.1)
    (h : inRanges first c = true) : inRanges second c = false := by
  obtain ⟨range, hrange, hc⟩ := List.any_eq_true.mp h
  rw [Bool.and_eq_true, decide_eq_true_eq, decide_eq_true_eq] at hc
  refine List.any_eq_false.mpr fun other hother hcode => ?_
  rw [Bool.and_eq_true, decide_eq_true_eq, decide_eq_true_eq] at hcode
  have hbetween := hapart range hrange other hother
  omega

theorem isBlank_of_isWord {c : Char} (h : isWord c = true) : isBlank c = false := by
  rw [isWord] at h
  split at h
  · next hascii =>
    have hword : isWord c = true := by rw [isWord, if_pos hascii, h]
    exact of_toNat_lt (P := fun c => isWord c = true → isBlank c = false) (by decide) hascii hword
  · exact inRanges_eq_false_of_apart (by decide +kernel) h

end RequestScript.Text
