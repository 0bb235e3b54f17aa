/-!
# Cutting texts

A text is cut at the first separator, or at every separator; a text without a separator is one
piece. The pieces joined by the separator are the text again.
-/

namespace RequestScript.Text

/-- The parts of a text before and after the first `separator`, if there is one. -/
def cut? (separator : Char) : List Char → Option (List Char × List Char)
  | [] => none
  | c :: rest =>
    if c = separator then some ([], rest)
    else (cut? separator rest).map fun parts => (c :: parts.1, parts.2)

/-- The pieces between the separators of a text; there is always at least one. -/
def pieces (separator : Char) : List Char → List (List Char)
  | [] => [[]]
  | c :: rest =>
    if c = separator then [] :: pieces separator rest
    else match pieces separator rest with
      | [] => [[c]]
      | piece :: more => (c :: piece) :: more

/-- The texts with the separator text between neighbours. -/
def join (separator : List Char) : List (List Char) → List Char
  | [] => []
  | [piece] => piece
  | piece :: more => piece ++ separator ++ join separator more

/-- Whether `part` occurs inside a text. -/
def occursIn (part : List Char) : List Char → Bool
  | [] => part.isEmpty
  | c :: rest => part.isPrefixOf (c :: rest) || occursIn part rest

/-- The text after `start`, if it begins so. -/
def dropStart? (start cs : List Char) : Option (List Char) :=
  if start.isPrefixOf cs then some (cs.drop start.length) else none

/-- The text before `ending`, if it ends so. -/
def dropEnding? (ending cs : List Char) : Option (List Char) :=
  if ending.isSuffixOf cs then some (cs.take (cs.length - ending.length)) else none

/-- The text without one line feed at its end. -/
def dropFinalLineFeed (cs : List Char) : List Char :=
  (dropEnding? ['\n'] cs).getD cs

/-- The parts of a text before and after the first occurrence of `mark`, if there is one. -/
def cutText? (mark : List Char) : List Char → Option (List Char × List Char)
  | [] => if mark.isEmpty then some ([], []) else none
  | c :: rest =>
    match dropStart? mark (c :: rest) with
    | some after => some ([], after)
    | none => (cutText? mark rest).map fun parts => (c :: parts.1, parts.2)

/-- Whether a text is made of characters of a class, at least one of them. -/
def isAll (has : Char → Bool) (cs : List Char) : Bool :=
  !cs.isEmpty && cs.all has

theorem isAll_iff {has : Char → Bool} {cs : List Char} :
    isAll has cs = true ↔ cs ≠ [] ∧ ∀ c ∈ cs, has c = true := by
  simp [isAll]

/-- A line feed at the end of a text is left out, and only there. -/
theorem dropFinalLineFeed_concat (cs : List Char) : dropFinalLineFeed (cs ++ ['\n']) = cs := by
  have hsuffix : ['\n'].isSuffixOf (cs ++ ['\n']) = true :=
    List.isSuffixOf_iff_suffix.mpr (List.suffix_append cs ['\n'])
  simp [dropFinalLineFeed, dropEnding?, hsuffix]

theorem dropFinalLineFeed_of_getLast? {cs : List Char} (h : cs.getLast? ≠ some '\n') :
    dropFinalLineFeed cs = cs := by
  have hsuffix : ['\n'].isSuffixOf cs = false := by
    rw [Bool.eq_false_iff]
    intro hend
    obtain ⟨front, rfl⟩ := List.isSuffixOf_iff_suffix.mp hend
    exact h List.getLast?_concat
  simp [dropFinalLineFeed, dropEnding?, hsuffix]

theorem pieces_ne_nil (separator : Char) (cs : List Char) : pieces separator cs ≠ [] := by
  cases cs with
  | nil => simp [pieces]
  | cons c rest =>
    unfold pieces
    split
    · simp
    · split <;> simp

/-- The first piece is what stands before the first separator. -/
theorem pieces_eq_cons (separator : Char) (cs : List Char) :
    pieces separator cs = cs.takeWhile (· != separator) :: (pieces separator cs).tail := by
  induction cs with
  | nil => rfl
  | cons c rest ih =>
    by_cases hc : c = separator
    · simp [pieces, hc]
    · rw [pieces, if_neg hc, ih]
      simp [hc]

/-- A text without the separator is one piece. -/
theorem pieces_of_not_mem {separator : Char} {cs : List Char} (h : separator ∉ cs) :
    pieces separator cs = [cs] := by
  induction cs with
  | nil => rfl
  | cons c rest ih =>
    have hc : c ≠ separator := fun hc => h (hc ▸ List.mem_cons_self)
    rw [pieces, if_neg hc, ih fun hmem => h (List.mem_cons_of_mem c hmem)]

/-- A separator divides the pieces before it from those behind it. -/
theorem pieces_append (separator : Char) (front back : List Char) :
    pieces separator (front ++ separator :: back) =
      pieces separator front ++ pieces separator back := by
  induction front with
  | nil => simp [pieces]
  | cons c front ih =>
    obtain ⟨piece, more, hfront⟩ := List.exists_cons_of_ne_nil (pieces_ne_nil separator front)
    rw [hfront] at ih
    rw [List.cons_append, pieces, pieces, hfront, ih]
    split <;> rfl

/-- A text without the separator is not cut. -/
theorem cut?_eq_none {separator : Char} {cs : List Char} (h : separator ∉ cs) :
    cut? separator cs = none := by
  induction cs with
  | nil => rfl
  | cons c cs ih =>
    have hc : c ≠ separator := fun hc => h (hc ▸ List.mem_cons_self)
    have hcs : separator ∉ cs := fun hmem => h (List.mem_cons_of_mem c hmem)
    simp [cut?, hc, ih hcs]

/-- A text is cut after what stands before its first separator. -/
theorem cut?_append {separator : Char} {cs : List Char} (h : separator ∉ cs) (rest : List Char) :
    cut? separator (cs ++ separator :: rest) = some (cs, rest) := by
  induction cs with
  | nil => simp [cut?]
  | cons c cs ih =>
    have hc : c ≠ separator := fun hc => h (hc ▸ List.mem_cons_self)
    have hcs : separator ∉ cs := fun hmem => h (List.mem_cons_of_mem c hmem)
    simp [cut?, hc, ih hcs]

/-- A text that is cut has the separator between its parts. -/
theorem eq_of_cut? {separator : Char} {cs front back : List Char}
    (h : cut? separator cs = some (front, back)) : cs = front ++ separator :: back := by
  induction cs generalizing front with
  | nil => cases h
  | cons c rest ih =>
    rw [cut?] at h
    split at h
    · next hc =>
      obtain ⟨rfl, rfl⟩ := Prod.mk.inj (Option.some.inj h)
      rw [hc, List.nil_append]
    · obtain ⟨⟨before, after⟩, hcut, hparts⟩ := Option.map_eq_some_iff.mp h
      obtain ⟨rfl, rfl⟩ := Prod.mk.inj hparts
      rw [ih hcut, List.cons_append]

/-- Joining the pieces restores the text. -/
theorem join_pieces (separator : Char) (cs : List Char) :
    join [separator] (pieces separator cs) = cs := by
  induction cs with
  | nil => rfl
  | cons c rest ih =>
    obtain ⟨piece, more, h⟩ := List.exists_cons_of_ne_nil (pieces_ne_nil separator rest)
    rw [h] at ih
    by_cases hc : c = separator
    · simp [pieces, hc, h, join, ih]
    · cases more <;> simp_all [pieces, join]

theorem join_eq_intercalate (separator : List Char) (texts : List (List Char)) :
    join separator texts = separator.intercalate texts := by
  induction texts with
  | nil => rfl
  | cons text rest ih =>
    cases rest with
    | nil => rw [join, List.intercalate_singleton]
    | cons next more => rw [join, ih, List.intercalate_cons_cons]; exact List.cons_ne_nil next more

/-- A character of joined texts is one of the separator or of a text. -/
theorem mem_join {separator : List Char} {texts : List (List Char)} {c : Char}
    (h : c ∈ join separator texts) : c ∈ separator ∨ ∃ text ∈ texts, c ∈ text := by
  induction texts with
  | nil => cases h
  | cons text rest ih =>
    cases rest with
    | nil => exact .inr ⟨text, List.mem_cons_self, h⟩
    | cons next more =>
      rw [join, List.mem_append, List.mem_append] at h
      · rcases h with (htext | hseparator) | hrest
        · exact .inr ⟨text, List.mem_cons_self, htext⟩
        · exact .inl hseparator
        · refine (ih hrest).imp_right ?_
          rintro ⟨other, hmem, hc⟩
          exact ⟨other, List.mem_cons_of_mem text hmem, hc⟩
      · exact List.cons_ne_nil next more

/-- Texts without the separator that are joined are the pieces of the whole. -/
theorem pieces_join {separator : Char} {texts : List (List Char)} (hne : texts ≠ [])
    (h : ∀ text ∈ texts, separator ∉ text) : pieces separator (join [separator] texts) = texts := by
  induction texts with
  | nil => exact absurd rfl hne
  | cons text rest ih =>
    obtain ⟨htext, hrest⟩ := List.forall_mem_cons.mp h
    cases rest with
    | nil => exact pieces_of_not_mem htext
    | cons next more =>
      have hjoin : join [separator] (text :: next :: more) =
          text ++ separator :: join [separator] (next :: more) := by
        simp [join]
      rw [hjoin, pieces_append, pieces_of_not_mem htext, ih (List.cons_ne_nil next more) hrest,
        List.singleton_append]

/-- A piece has no separator in it. -/
theorem not_mem_of_mem_pieces {separator : Char} {cs piece : List Char}
    (h : piece ∈ pieces separator cs) : separator ∉ piece := by
  induction cs generalizing piece with
  | nil =>
    obtain rfl := List.mem_singleton.mp h
    exact List.not_mem_nil
  | cons c rest ih =>
    rw [pieces] at h
    split at h
    · rcases List.mem_cons.mp h with rfl | hmem
      · exact List.not_mem_nil
      · exact ih hmem
    · next hc =>
      obtain ⟨first, more, hrest⟩ := List.exists_cons_of_ne_nil (pieces_ne_nil separator rest)
      rw [hrest] at h ih
      rcases List.mem_cons.mp h with rfl | hmem
      · intro hmem
        rcases List.mem_cons.mp hmem with heq | hmem
        · exact hc heq.symm
        · exact ih List.mem_cons_self hmem
      · exact ih (List.mem_cons_of_mem first hmem)

end RequestScript.Text
