import Mathlib.Data.List.DropRight
import Mathlib.Data.List.TakeWhile
import RequestScript.Text.Blank

/-!
# Texts without blanks around them

A text is its own trimmed text when it neither starts nor ends with a blank. What is put between
the ends of such a text keeps its blanks.
-/

namespace RequestScript.Text

/-- A text keeps its start when it does not start with a blank. -/
theorem trimStart_eq_self_iff {cs : List Char} :
    trimStart cs = cs ↔ ∀ c ∈ cs.head?, isBlank c = false := by
  cases cs with
  | nil => simp [trimStart]
  | cons c rest => simp [trimStart, List.dropWhile_eq_self_iff]

/-- A text keeps its end when it does not end with a blank. -/
theorem trimEnd_eq_self_iff {cs : List Char} :
    trimEnd cs = cs ↔ ∀ c ∈ cs.getLast?, isBlank c = false := by
  have hdrop : trimEnd cs = cs.rdropWhile isBlank := rfl
  rw [hdrop, List.rdropWhile_eq_self_iff]
  constructor
  · intro h c hc
    obtain ⟨hne, hlast⟩ := List.mem_getLast?_eq_getLast hc
    simpa [hlast] using h hne
  · intro h hne
    simpa using h _ (List.getLast_mem_getLast? hne)

/-- A trimmed text is the start of the text without the blanks before it. -/
theorem trim_isPrefix_trimStart (cs : List Char) : trim cs <+: trimStart cs :=
  List.rdropWhile_prefix isBlank (trimStart cs)

/-- Trimming takes away nothing exactly when there is no blank at either end. -/
theorem trim_eq_self_iff {cs : List Char} :
    trim cs = cs ↔ trimStart cs = cs ∧ trimEnd cs = cs := by
  constructor
  · intro h
    have hsuffix : trimStart cs <:+ cs := List.dropWhile_suffix isBlank
    have hlength : cs.length ≤ (trimStart cs).length := by
      simpa [h] using (trim_isPrefix_trimStart cs).length_le
    have hstart : trimStart cs = cs :=
      hsuffix.eq_of_length (le_antisymm hsuffix.length_le hlength)
    refine ⟨hstart, ?_⟩
    rw [trim, hstart] at h
    exact h
  · rintro ⟨hstart, hend⟩
    rw [trim, hstart, hend]

theorem trimStart_trimStart (cs : List Char) : trimStart (trimStart cs) = trimStart cs :=
  List.dropWhile_idempotent isBlank cs

theorem trimEnd_trimEnd (cs : List Char) : trimEnd (trimEnd cs) = trimEnd cs :=
  List.rdropWhile_idempotent isBlank cs

/-- The trimmed text has no blanks around it. -/
theorem trim_trim (cs : List Char) : trim (trim cs) = trim cs := by
  rw [trim_eq_self_iff]
  refine ⟨trimStart_eq_self_iff.mpr fun c hc => ?_, trimEnd_trimEnd _⟩
  obtain ⟨rest, hrest⟩ := trim_isPrefix_trimStart cs
  have hstart := trimStart_eq_self_iff.mp (trimStart_trimStart cs)
  refine hstart c ?_
  rw [← hrest, List.head?_append]
  simp [Option.mem_def.mp hc]

/-- Nothing is left of a text when nothing but blanks is at its start. -/
theorem trim_eq_nil_iff {cs : List Char} : trim cs = [] ↔ trimStart cs = [] := by
  constructor
  · intro h
    have hall : ∀ c ∈ trimStart cs, isBlank c = true := List.rdropWhile_eq_nil_iff.mp h
    by_contra hne
    have hhead := trimStart_eq_self_iff.mp (trimStart_trimStart cs) _ (List.head?_eq_some_head hne)
    rw [hall _ (List.head_mem hne)] at hhead
    cases hhead
  · intro h
    rw [trim, h]
    rfl

theorem trim_trimStart (cs : List Char) : trim (trimStart cs) = trim cs := by
  rw [trim, trimStart_trimStart, ← trim]

theorem trim_subset (cs : List Char) : trim cs ⊆ cs := fun _ hc =>
  (List.dropWhile_suffix isBlank).subset ((trim_isPrefix_trimStart cs).subset hc)

/-- A text that ends with a text without a blank at its end has none either. -/
theorem trimEnd_append (xs : List Char) {ys : List Char} (hne : ys ≠ []) (h : trimEnd ys = ys) :
    trimEnd (xs ++ ys) = xs ++ ys := by
  rw [trimEnd_eq_self_iff] at h ⊢
  rw [List.getLast?_append_of_ne_nil xs hne]
  exact h

/-- A text that starts with a text without a blank at its start has none either. -/
theorem trimStart_append {xs ys : List Char} (hne : xs ≠ []) (h : trimStart xs = xs) :
    trimStart (xs ++ ys) = xs ++ ys := by
  rw [trimStart_eq_self_iff] at h ⊢
  rw [List.head?_append_of_ne_nil xs hne]
  exact h

/-- Trimming a text that starts with a trimmed text takes blanks away at the end only, and at most
up to the trimmed text. -/
theorem trim_append_left {xs ys : List Char} (hne : xs ≠ []) (h : trim xs = xs) :
    trim (xs ++ ys) = xs ++ trimEnd ys := by
  obtain ⟨hstart, hend⟩ := trim_eq_self_iff.mp h
  rw [trim, trimStart_append hne hstart]
  change xs.rdropWhile isBlank = xs at hend
  change (xs ++ ys).rdropWhile isBlank = xs ++ ys.rdropWhile isBlank
  induction ys using List.reverseRecOn with
  | nil => rw [List.append_nil, hend, List.rdropWhile_nil, List.append_nil]
  | append_singleton ys c ih =>
    rw [← List.append_assoc, List.rdropWhile_concat, List.rdropWhile_concat, ih]
    by_cases hc : isBlank c <;> simp [hc]

/-- A text without blanks is trimmed. -/
theorem trim_of_forall {cs : List Char} (h : ∀ c ∈ cs, isBlank c = false) : trim cs = cs := by
  rw [trim_eq_self_iff, trimStart_eq_self_iff, trimEnd_eq_self_iff]
  exact ⟨fun c hc => h c (List.mem_of_mem_head? hc), fun c hc => h c (List.mem_of_getLast? hc)⟩

/-- What comes behind a character that is no blank has blanks to be trimmed away at its end only. -/
theorem trim_cons_of_not_isBlank {c : Char} (hc : isBlank c = false) (cs : List Char) :
    trim (c :: cs) = c :: trimEnd cs :=
  trim_append_left (List.cons_ne_nil c []) (trim_of_forall (List.forall_mem_singleton.mpr hc))

/-- Trimmed texts with a character between them that is no blank are a trimmed text. -/
theorem trim_append_cons {xs ys : List Char} {c : Char} (hc : isBlank c = false)
    (hxs : trim xs = xs) (hys : trim ys = ys) : trim (xs ++ c :: ys) = xs ++ c :: ys := by
  have hbehind : trim (c :: ys) = c :: ys := by
    rw [trim_cons_of_not_isBlank hc, (trim_eq_self_iff.mp hys).2]
  by_cases hempty : xs = []
  · rw [hempty, List.nil_append, hbehind]
  · rw [trim_append_left hempty hxs, (trim_eq_self_iff.mp hbehind).2]

/-- A blank before a text is trimmed away. -/
theorem trim_cons_of_isBlank {c : Char} (hc : isBlank c) (cs : List Char) :
    trim (c :: cs) = trim cs := by
  rw [trim, trim, trimStart, List.dropWhile_cons_of_pos hc, ← trimStart]

/-- Blanks behind a text are trimmed away. -/
theorem trim_append_of_blank (xs : List Char) {ys : List Char} (h : ∀ c ∈ ys, isBlank c = true) :
    trim (xs ++ ys) = trim xs := by
  have hstart : trimStart ys = [] := List.dropWhile_eq_nil_iff.mpr h
  have hend (zs : List Char) : trimEnd (zs ++ ys) = trimEnd zs := by
    have hreverse : ∀ c ∈ ys.reverse, isBlank c = true := fun c hc => h c (List.mem_reverse.mp hc)
    rw [trimEnd, trimEnd, List.reverse_append, List.dropWhile_append_of_pos hreverse]
  rw [trimStart] at hstart
  rw [trim, trim, trimStart, trimStart, List.dropWhile_append]
  split
  · next hempty => rw [hstart, List.isEmpty_iff.mp hempty]
  · exact hend _

theorem trimmed_eq_self_iff {text : String} :
    trimmed text = text ↔ trim text.toList = text.toList := by
  rw [trimmed]
  constructor
  · intro h
    simpa using congrArg String.toList h
  · intro h
    rw [h, String.ofList_toList]

/-- A text that is not empty and has no blanks around it. -/
structure Stripped (text : String) : Prop where
  /-- It is not empty. -/
  ne_empty : text ≠ ""
  /-- There are no blanks around it. -/
  trimmed_eq : trimmed text = text

theorem stripped_ofList_trim {cs : List Char} (h : trim cs ≠ []) :
    Stripped (String.ofList (trim cs)) := by
  refine ⟨fun hempty => h ?_, ?_⟩
  · simpa using congrArg String.toList hempty
  · rw [trimmed, String.toList_ofList, trim_trim]

end RequestScript.Text
