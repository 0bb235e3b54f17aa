import Mathlib.Data.List.Forall2
import RequestScript.Proofs.Text.Blank
import RequestScript.Text.Lines
import RequestScript.Text.Split

/-!
# Lines of texts that are put together

A text without a line feed is one line, and texts joined by line feeds have the lines of each of
them, one after the other. The lines of a text without carriage returns, joined again, are that
text.
-/

namespace RequestScript.Text

theorem lines_ne_nil (cs : List Char) : lines cs ≠ [] := by
  fun_cases lines cs <;> simp_all

/-- A text without a line feed is one line. -/
theorem lines_of_not_mem {cs : List Char} (h : '\n' ∉ cs) : lines cs = [cs] := by
  fun_induction lines cs <;> simp_all

/-- A character that ends no line comes before the first line of the rest. -/
theorem lines_cons {c : Char} {rest line : List Char} {more : List (List Char)} (hc : c ≠ '\n')
    (hpair : c = '\r' → rest.head? ≠ some '\n') (h : lines rest = line :: more) :
    lines (c :: rest) = (c :: line) :: more := by
  rw [lines.eq_3 c rest ?_, if_neg hc, h]
  rintro tail hreturn rfl
  exact hpair hreturn rfl

/-- A line feed after a text without a carriage return at its end only ends a line. -/
theorem lines_append_lineFeed {xs : List Char} (h : xs.getLast? ≠ some '\r') (ys : List Char) :
    lines (xs ++ '\n' :: ys) = lines xs ++ lines ys := by
  have htail {c : Char} {rest : List Char} (h : (c :: rest).getLast? ≠ some '\r') :
      rest.getLast? ≠ some '\r' := by
    cases rest <;> simp_all
  -- The induction follows the recursion of `lines`; only a carriage return as the last character
  -- of the first text would take the line feed with it.
  fun_induction lines xs with
  | case1 => simp [lines]
  | case2 rest ih => simp [lines, ih (htail (htail h))]
  | case3 rest _ ih => simp [lines, ih (htail h)]
  | case4 c rest => exact absurd ‹lines rest = []› (lines_ne_nil rest)
  | case5 c rest hpair hc line more hlines ih =>
    have hrest : lines (rest ++ '\n' :: ys) = line :: (more ++ lines ys) := by
      rw [ih (htail h), hlines, List.cons_append]
    refine lines_cons hc (fun hreturn hfeed => ?_) hrest
    cases rest with
    | nil => exact h (by rw [hreturn]; rfl)
    | cons d rest =>
      have hd : d = '\n' := by simpa using hfeed
      exact hpair rest hreturn (by rw [hd])

/-- **The lines of joined texts are the lines of each of them**, if no carriage return stands
before a line feed that joins two of them. -/
theorem lines_join {texts : List (List Char)} (hne : texts ≠ [])
    (h : ∀ text ∈ texts, text.getLast? ≠ some '\r') :
    lines (join ['\n'] texts) = texts.flatMap lines := by
  induction texts with
  | nil => exact absurd rfl hne
  | cons text rest ih =>
    cases rest with
    | nil => simp [join]
    | cons next more =>
      have hrest := ih (by simp) fun other hmem => h other (List.mem_cons_of_mem text hmem)
      have htext : text.getLast? ≠ some '\r' := h text List.mem_cons_self
      have hjoin : join ['\n'] (text :: next :: more) =
          text ++ '\n' :: join ['\n'] (next :: more) := by
        simp [join]
      rw [hjoin, lines_append_lineFeed htext, hrest,
        List.flatMap_cons (x := text)]

/-! ## Joining single lines -/

/-- A text that is joined behind other texts comes behind a separator. -/
theorem join_concat {separator : List Char} {texts : List (List Char)} (hne : texts ≠ [])
    (last : List Char) :
    join separator (texts ++ [last]) = join separator texts ++ separator ++ last := by
  induction texts with
  | nil => exact absurd rfl hne
  | cons text rest ih =>
    cases rest with
    | nil => simp [join]
    | cons next more =>
      have hrest := ih (List.cons_ne_nil next more)
      simp only [List.cons_append, join, List.append_assoc] at hrest ⊢
      rw [hrest]

/-- What is read of a text on one line: the text, or what stands before a carriage return at its
end. -/
def IsReadAs (text line : List Char) : Prop :=
  line = text ∨ text = line ++ ['\r']

/-- What is read of a text has the same text between the blanks around it. -/
theorem IsReadAs.trim_eq {text line : List Char} (h : IsReadAs text line) :
    trim line = trim text := by
  rcases h with rfl | rfl
  · rfl
  · exact (trim_append_of_blank line (List.forall_mem_singleton.mpr (by decide))).symm

/-- A text without a carriage return at its end is read as it is. -/
theorem IsReadAs.eq_of_getLast?_ne {text line : List Char} (h : IsReadAs text line)
    (hlast : text.getLast? ≠ some '\r') : line = text := by
  rcases h with rfl | rfl
  · rfl
  · exact absurd List.getLast?_concat hlast

/-- What is read of a text on one line that is not the last one. -/
def withoutReturn (text : List Char) : List Char :=
  if text.getLast? = some '\r' then text.dropLast else text

theorem isReadAs_withoutReturn (text : List Char) : IsReadAs text (withoutReturn text) := by
  unfold withoutReturn
  split
  · next hlast => exact .inr (List.dropLast_append_getLast? '\r' hlast).symm
  · exact .inl rfl

theorem lines_append_return {front : List Char} (h : '\n' ∉ front) (rest : List Char) :
    lines (front ++ '\r' :: '\n' :: rest) = front :: lines rest := by
  induction front with
  | nil => rfl
  | cons c front ih =>
    rw [List.mem_cons, not_or] at h
    obtain ⟨hc, hfront⟩ := h
    refine lines_cons (Ne.symm hc) (fun _ hhead => ?_) (ih hfront)
    cases front with
    | nil => cases hhead
    | cons d more =>
      obtain rfl := Option.some.inj hhead
      exact hfront List.mem_cons_self

/-- A text on one line and the line feed behind it are one line. -/
theorem lines_append_of_single {text : List Char} (h : '\n' ∉ text) (rest : List Char) :
    lines (text ++ '\n' :: rest) = withoutReturn text :: lines rest := by
  unfold withoutReturn
  split
  · next hlast =>
    obtain ⟨front, rfl⟩ := List.getLast?_eq_some_iff.mp hlast
    have hfront : '\n' ∉ front := fun hmem => h (List.mem_append_left _ hmem)
    rw [List.dropLast_concat, List.append_assoc]
    exact lines_append_return hfront rest
  · next hlast =>
    rw [lines_append_lineFeed hlast, lines_of_not_mem h]
    rfl

/-- Texts on one line each that are joined in front of another text are read line by line before
it. -/
theorem lines_join_append {texts : List (List Char)} (h : ∀ text ∈ texts, '\n' ∉ text)
    (rest : List Char) :
    lines (join ['\n'] (texts ++ [rest])) = texts.map withoutReturn ++ lines rest := by
  induction texts with
  | nil => rfl
  | cons text more ih =>
    obtain ⟨htext, hmore⟩ := List.forall_mem_cons.mp h
    have hjoin : join ['\n'] (text :: more ++ [rest]) =
        text ++ '\n' :: join ['\n'] (more ++ [rest]) := by
      cases more <;> simp [join]
    rw [hjoin, lines_append_of_single htext, ih hmore, List.map_cons, List.cons_append]

theorem exists_lines_join {texts : List (List Char)} (h : ∀ text ∈ texts, '\n' ∉ text)
    (rest : List Char) :
    ∃ read, List.Forall₂ IsReadAs texts read ∧
      lines (join ['\n'] (texts ++ [rest])) = read ++ lines rest :=
  ⟨_, List.forall₂_map_right_iff.mpr (List.forall₂_same.mpr fun text _ =>
    isReadAs_withoutReturn text), lines_join_append h rest⟩

/-- Texts on one line each that are joined are read line by line. -/
theorem forall₂_lines_join {texts : List (List Char)} (hne : texts ≠ [])
    (h : ∀ text ∈ texts, '\n' ∉ text) :
    List.Forall₂ IsReadAs texts (lines (join ['\n'] texts)) := by
  obtain ⟨front, last, rfl⟩ := (List.eq_nil_or_concat' texts).resolve_left hne
  obtain ⟨read, hread, hlines⟩ := exists_lines_join
    (fun text hmem => h text (List.mem_append_left _ hmem)) last
  rw [hlines, lines_of_not_mem (h last (by simp))]
  exact List.rel_append hread (.cons (.inl rfl) .nil)

/-- Which lines are read of texts on one line each: the last line may stand at the end of the whole
text, where a carriage return is kept. -/
inductive AreReadAs : List (List Char) → List (List Char) → Prop
  /-- No text is no line. -/
  | nil : AreReadAs [] []
  /-- At the end of the whole text the text is the line. -/
  | last (text : List Char) : AreReadAs [text] [text]
  /-- Before a line feed it is the line without a carriage return. -/
  | cons {texts read : List (List Char)} (text : List Char) (h : AreReadAs texts read) :
    AreReadAs (text :: texts) (withoutReturn text :: read)

/-- Texts on one line each that are joined are read as their lines. -/
theorem areReadAs_lines_join {texts : List (List Char)} (hne : texts ≠ [])
    (h : ∀ text ∈ texts, '\n' ∉ text) : AreReadAs texts (lines (join ['\n'] texts)) := by
  obtain ⟨front, last, rfl⟩ := (List.eq_nil_or_concat' texts).resolve_left hne
  obtain ⟨hfront, hlast⟩ := List.forall_mem_append.mp h
  rw [lines_join_append hfront, lines_of_not_mem (hlast last List.mem_cons_self)]
  clear h hne hfront
  induction front with
  | nil => exact .last last
  | cons text more ih => exact ih.cons text

namespace AreReadAs

variable {texts read : List (List Char)}

/-- A text without a carriage return at its end is read as it is. -/
theorem exists_cons {text : List Char} (h : AreReadAs (text :: texts) read)
    (hlast : text.getLast? ≠ some '\r') : ∃ more, read = text :: more ∧ AreReadAs texts more := by
  cases h with
  | last => exact ⟨[], rfl, .nil⟩
  | @cons _ more _ hmore =>
    rw [(isReadAs_withoutReturn text).eq_of_getLast?_ne hlast]
    exact ⟨more, rfl, hmore⟩

/-- What is read of appended texts is what is read of each of them. -/
theorem exists_append {xs ys : List (List Char)} (h : AreReadAs (xs ++ ys) read) :
    ∃ front back, read = front ++ back ∧ AreReadAs xs front ∧ AreReadAs ys back := by
  induction xs generalizing read with
  | nil => exact ⟨[], read, rfl, .nil, h⟩
  | cons text xs ih =>
    rw [List.cons_append] at h
    generalize hrest : xs ++ ys = rest at h
    cases h with
    | last =>
      obtain ⟨rfl, rfl⟩ := List.append_eq_nil_iff.mp hrest
      exact ⟨[text], [], rfl, .last text, .nil⟩
    | cons _ hmore =>
      obtain ⟨front, back, rfl, hfront, hback⟩ := ih (hrest ▸ hmore)
      exact ⟨_ :: front, back, rfl, hfront.cons text, hback⟩

/-- Texts are read as lines with the same texts between the blanks around them. -/
theorem map_trim_eq (h : AreReadAs texts read) : read.map trim = texts.map trim := by
  induction h with
  | nil | last => rfl
  | cons text _ ih =>
    rw [List.map_cons, List.map_cons, (isReadAs_withoutReturn text).trim_eq, ih]

/-- What does not depend on blanks around a text holds of the lines that are read. -/
theorem forall_mem {p : List Char → Prop} (hp : ∀ text, p (trim text) ↔ p text)
    (h : AreReadAs texts read) (htexts : ∀ text ∈ texts, p text) : ∀ line ∈ read, p line := by
  have hall : ∀ text ∈ texts.map trim, p text :=
    List.forall_mem_map.mpr fun text hmem => (hp text).mpr (htexts text hmem)
  exact fun line hmem => (hp line).mp (hall _ (h.map_trim_eq ▸ List.mem_map_of_mem hmem))

/-- Joined, the lines differ from those before line feeds in nothing but a carriage return at the
end. -/
theorem isReadAs_join (h : AreReadAs texts read) :
    IsReadAs (join ['\n'] read) (join ['\n'] (texts.map withoutReturn)) := by
  induction h with
  | nil => exact .inl rfl
  | last text => exact isReadAs_withoutReturn text
  | cons text hmore ih =>
    have hjoin (next : List Char) (more : List (List Char)) :
        join ['\n'] (withoutReturn text :: next :: more) =
          withoutReturn text ++ ['\n'] ++ join ['\n'] (next :: more) := rfl
    cases hmore with
    | nil => exact .inl rfl
    | last | cons =>
      rw [List.map_cons, List.map_cons, hjoin, hjoin]
      rw [List.map_cons] at ih
      rcases ih with hsame | hreturn
      · exact .inl (by rw [hsame])
      · exact .inr (by rw [hreturn, ← List.append_assoc])

end AreReadAs

/-- Without carriage returns the lines are the pieces between the line feeds. -/
theorem lines_eq_pieces {cs : List Char} (h : '\r' ∉ cs) : lines cs = pieces '\n' cs := by
  fun_induction lines cs with
  | case1 => rfl
  | case2 rest ih => simp at h
  | case3 rest _ ih => simp [pieces, ih (List.not_mem_of_not_mem_cons h)]
  | case4 c rest => exact absurd ‹lines rest = []› (lines_ne_nil rest)
  | case5 c rest hpair hc line more hlines ih =>
    have hpieces : pieces '\n' rest = line :: more := by
      rw [← ih (List.not_mem_of_not_mem_cons h), hlines]
    rw [pieces, if_neg hc, hpieces]

/-- Joining the lines restores a text without carriage returns. -/
theorem join_lines {cs : List Char} (h : '\r' ∉ cs) : join ['\n'] (lines cs) = cs := by
  rw [lines_eq_pieces h, join_pieces]

end RequestScript.Text
