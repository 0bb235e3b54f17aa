import RequestScript.Assertion
import RequestScript.Proofs.Text.Blank

/-!
# Well-formed assertions

What an expression spells, if it spells an assertion: a known part of a response, a known operator,
and an expected text exactly where the operator compares with one.
-/

namespace RequestScript

open Text

/-- No operator both does and does not take an expected text. -/
theorem Operator.isBinary_of_isUnary {operator : Operator} (h : operator.isUnary = true) :
    operator.isBinary = false := by
  cases operator <;> first | rfl | cases h

/-- An assertion that some expression spells. -/
structure Assertion.WellFormed (assertion : Assertion) : Prop where
  /-- The target is a part of a response. -/
  target : assertion.target.isKnown = true
  /-- The path is not empty and has no blanks. -/
  path : ∀ path ∈ assertion.path, path ≠ "" ∧ ∀ c ∈ path.toList, isBlank c = false
  /-- The operator is one of those that there are. -/
  operator : assertion.operator.isUnary = true ∨ assertion.operator.isBinary = true
  /-- There is an expected text exactly where the operator compares with one. -/
  isSome_expected : assertion.expected.isSome = assertion.operator.isBinary
  /-- The expected text is not empty, stands on one line and has no blanks around it. -/
  expected : ∀ expected ∈ assertion.expected, Stripped expected ∧ '\n' ∉ expected.toList

namespace Assertion

theorem isBlank_of_mem_nextWord {cs : List Char} :
    ∀ c ∈ (nextWord cs).1, isBlank c = false := by
  intro c hc
  simpa using List.mem_takeWhile_imp hc

/-- The path in a word without blanks has no blanks. -/
theorem path_subject {word : List Char} (hword : ∀ c ∈ word, isBlank c = false) :
    ∀ path ∈ (subject word).2, path ≠ "" ∧ ∀ c ∈ path.toList, isBlank c = false := by
  intro path hpath
  unfold subject at hpath
  split at hpath
  · cases hpath
  · next target rest hcut =>
    dsimp only at hpath
    split at hpath
    · cases hpath
    · next hne =>
      obtain rfl := Option.some.inj hpath
      refine ⟨fun hempty => hne ?_, fun c hc => hword c ?_⟩
      · simpa using congrArg String.toList hempty
      · rw [String.toList_ofList] at hc
        rw [eq_of_cut? hcut]
        exact List.mem_append_right _ (List.mem_cons_of_mem _ hc)

/-- Only well-formed assertions are spelled. -/
theorem wellFormed_ofChars? {expression : List Char} {assertion : Assertion}
    (h : ofChars? expression = some assertion) : assertion.WellFormed := by
  unfold ofChars? at h
  dsimp only at h
  generalize ((dropStart? "@assert".toList (trim expression)).map trim).getD (trim expression) = cs
    at h
  have hword : ∀ c ∈ (nextWord cs).1, isBlank c = false := isBlank_of_mem_nextWord
  have hpath := path_subject hword
  generalize subject (nextWord cs).1 = subject at h hpath
  generalize Operator.ofWord (String.ofList (nextWord (nextWord cs).2).1) = operator at h
  generalize hexpected : (nextWord (nextWord cs).2).2 = expected at h
  split at h
  · cases h
  next hknown =>
  split at h
  · next hunary =>
    rw [Bool.and_eq_true] at hunary
    obtain rfl := Option.some.inj h
    exact ⟨by simpa using hknown, hpath, .inl hunary.1,
      (Operator.isBinary_of_isUnary hunary.1).symm, nofun⟩
  split at h
  · next hbinary =>
    simp only [Bool.and_eq_true, Bool.not_eq_true', List.isEmpty_eq_false_iff] at hbinary
    obtain ⟨⟨hbinary, hne⟩, hline⟩ := hbinary
    obtain rfl := Option.some.inj h
    refine ⟨by simpa using hknown, hpath, .inr hbinary, hbinary.symm, ?_⟩
    intro text htext
    obtain rfl := Option.some.inj htext
    refine ⟨stripped_ofList_trim ?_, ?_⟩
    · rw [← hexpected, nextWord, Ne, trim_trimStart, trim_eq_nil_iff]
      rw [← hexpected, nextWord] at hne
      exact hne
    · rw [String.toList_ofList]
      intro hmem
      have hin : '\n' ∈ expected := trim_subset expected hmem
      simp [hin] at hline
  · cases h

end Assertion

end RequestScript
