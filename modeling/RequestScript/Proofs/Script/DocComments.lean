import RequestScript.Proofs.Script.Comments

/-!
# Doc comments on one line

A doc comment that opens and closes on one line leaves everything as it stands, unless it names the
collection or the tags of the script. The shortest one is an exception: its two marks share a star,
so that it is not closed, and the lines behind it belong to it up to one that ends it.
-/

namespace RequestScript

open Text

namespace Document

open Reading (docStart docEnd headMode)

/-- The words of a doc comment: its text without the blanks around it and the star at its start. -/
def docWords (text : List Char) : List Char :=
  match trim text with
  | '*' :: rest => trimStart rest
  | words => words

/-- The words of a doc comment name neither the collection nor the tags of the script. -/
def IsSilent (text : List Char) : Prop :=
  ∀ name argument, Directive.split? (docWords text) = some (name, argument) →
    String.ofList name ∉ ["collection", "tags"]

/-- A doc comment that opens and closes on one line, and names neither the collection nor the tags.
The two marks may share a star. -/
structure IsDocRemark (line : List Char) : Prop where
  opens : docStart <+: trim line
  closes : docEnd <:+ trim line
  silent : ∀ text, trim line = docStart ++ text ++ docEnd → IsSilent text

/-- The doc comment whose marks share a star. -/
def sharedStar : List Char := "/**/".toList

namespace IsDocRemark

variable {line : List Char}

/-- Unless they share a star, there is a text between the marks. -/
theorem exists_text (h : IsDocRemark line) (hshared : trim line ≠ sharedStar) :
    ∃ text, trim line = docStart ++ text ++ docEnd := by
  obtain ⟨rest, hrest⟩ := h.opens
  have hcloses := h.closes
  rw [← hrest] at hcloses hshared ⊢
  match rest with
  | [] => exact absurd hcloses (by decide)
  | [c] =>
    obtain ⟨front, hfront⟩ := hcloses
    have hlast := congrArg List.getLast? hfront
    simp only [docEnd, docStart, List.getLast?_append, List.getLast?_cons_cons,
      List.getLast?_singleton, Option.some_or, Option.some.injEq] at hlast
    exact absurd (by rw [← hlast]; rfl) hshared
  | c :: d :: more =>
    have hends : docEnd <:+ c :: d :: more :=
      List.suffix_of_suffix_length_le hcloses (List.suffix_append _ _) (by simp [docEnd])
    obtain ⟨text, htext⟩ := hends
    exact ⟨text, by rw [List.append_assoc, htext]⟩

theorem of_text {text : List Char} (h : trim line = docStart ++ text ++ docEnd)
    (hsilent : IsSilent text) : IsDocRemark line where
  opens := ⟨text ++ docEnd, by rw [h, List.append_assoc]⟩
  closes := ⟨docStart ++ text, h.symm⟩
  silent other hother := by
    have hsame := List.append_cancel_right (hother.symm.trans h)
    rwa [List.append_cancel_left hsame]

theorem isRemark (h : IsDocRemark line) : IsRemark line := by
  obtain ⟨rest, hrest⟩ := h.opens
  refine ⟨⟨'/', by decide, '*' :: '*' :: rest, hrest.symm⟩, fun hseparator => ?_⟩
  rw [← hrest] at hseparator
  exact absurd (List.cons_prefix_cons.mp hseparator).1 (by decide)

end IsDocRemark

namespace Reading

variable {reading : Reading} {line : List Char}

/-- Words that name neither the collection nor the tags say nothing about the script. -/
theorem applyDoc_of_isSilent {text : List Char} (h : IsSilent text) :
    reading.applyDoc text = reading := by
  unfold applyDoc
  dsimp only
  split
  · next name c argument hsplit =>
    have hname := h name (c :: argument) hsplit
    simp only [List.mem_cons, List.not_mem_nil, or_false, not_or] at hname
    split
    · next hcollection => exact absurd hcollection hname.1
    · next htags => exact absurd htags hname.2
    · rfl
  · rfl

/-- What a doc comment on one line does outside bodies: nothing, or it stays open where its marks
share a star. -/
theorem step_docRemark (h : IsDocRemark line) {draft : Option Draft}
    (hmode : reading.mode = headMode draft) (index : Nat) :
    reading.step index line = .ok
      (if trim line = sharedStar then { reading with mode := .doc draft } else reading) := by
  have hopen : (∀ inner, reading.mode ≠ .doc inner) ∧ reading.isInBody = false ∧
      reading.draft? = draft ∧ reading.step index line = reading.line index line := by
    unfold isInBody draft? step
    rw [hmode]
    cases draft <;> simp [headMode]
  obtain ⟨hdoc, hbody, hdraft, hstep⟩ := hopen
  have hmarker : trim line ≠ configMarker := by
    obtain ⟨rest, hrest⟩ := h.opens
    rw [← hrest]
    intro heq
    exact absurd (List.cons.inj heq).1 (by decide)
  have hprefix : docStart.isPrefixOf (trim line) = true := List.isPrefixOf_iff_prefix.mpr h.opens
  rw [hstep, line_eq hdoc, if_neg hmarker, hbody, hprefix, if_pos (by rfl), hdraft]
  congr 1
  by_cases hshared : trim line = sharedStar
  · rw [if_pos hshared, hshared]
    rfl
  · obtain ⟨text, htext⟩ := h.exists_text hshared
    have hdrop : dropEnding? docEnd ((trim line).drop docStart.length) = some text := by
      rw [htext, List.append_assoc, List.drop_left]
      simp [dropEnding?, docEnd]
    have hsame : ({ reading with mode := headMode draft } : Reading) = reading := by rw [← hmode]
    rw [if_neg hshared, docLine, hdrop]
    simp only [applyDoc_of_isSilent (h.silent text htext), hsame]

/-- A doc comment on one line can be read where it says nothing, and what is read behind it is read
as without it. -/
theorem exists_step_docRemark (h : IsDocRemark line) (hshared : trim line ≠ sharedStar)
    {rest : List (List Char)} (hignores : reading.mode.Ignores line rest) (index number : Nat) :
    ∃ next, reading.step index line = .ok next ∧
      (next.steps (index + 1) rest).map finished = (reading.steps number rest).map finished := by
  have hhead (draft : Option Draft) (hmode : reading.mode = headMode draft) :
      reading.step index line = .ok reading := by
    rw [step_docRemark h hmode, if_neg hshared]
  cases hmode : reading.mode with
  | body draft | doc draft =>
    rw [hmode] at hignores
    exact hignores.elim
  | outside =>
    have hstep := hhead none hmode
    exact ⟨reading, hstep, finished_steps_congr rfl _ _ rest⟩
  | head draft =>
    have hstep := hhead (some draft) hmode
    exact ⟨reading, hstep, finished_steps_congr rfl _ _ rest⟩
  | config current => exact exists_step_remark h.isRemark hmode (hmode ▸ hignores) index number

end Reading

/-- **A doc comment that is closed on its own line does not touch what follows**, if its marks do
not share a star and it names neither the collection nor the tags: wherever nothing but a request
can be open, a script says the same without it, but for the numbers of lines. In a configuration
block this holds under the same conditions as for comments. -/
theorem parse_docRemark {script commented : String} {front back : List (List Char)}
    {line : List Char} {reading : Reading} (hscript : lines script.toList = front ++ back)
    (hcommented : lines commented.toList = front ++ line :: back)
    (hline : IsDocRemark line) (hshared : trim line ≠ sharedStar)
    (hfront : ({} : Reading).steps 0 front = .ok reading)
    (hignores : reading.mode.Ignores line back) :
    (parse commented).map unnumbered = (parse script).map unnumbered :=
  map_unnumbered_parse_insert hscript hcommented hfront
    (Reading.exists_step_docRemark hline hshared hignores _ _)

/-- A script with a line in the head of its request, or without. -/
def remarkedScript (line : String) : String :=
  "###\n@name a\n" ++ line ++ "GET http://h/\n"

theorem parse_docRemark_starred :
    (parse (remarkedScript " /*** see */ and @tags x **/\t\n")).map unnumbered =
        (parse (remarkedScript "")).map unnumbered ∧
      (parse (remarkedScript "")).map (·.requests.map (·.url)) = .ok ["http://h/"] := by
  have hscript : lines (remarkedScript "").toList =
      ["###".toList, "@name a".toList] ++ ["GET http://h/".toList, []] := by
    decide +kernel
  have hcommented : lines (remarkedScript " /*** see */ and @tags x **/\t\n").toList =
      ["###".toList, "@name a".toList] ++
        " /*** see */ and @tags x **/\t".toList :: ["GET http://h/".toList, []] := by
    decide +kernel
  have htext : trim " /*** see */ and @tags x **/\t".toList =
      Reading.docStart ++ "* see */ and @tags x *".toList ++ Reading.docEnd := by
    decide +kernel
  have hwords : Directive.split? (docWords "* see */ and @tags x *".toList) = none := by
    decide +kernel
  have hsilent : IsSilent "* see */ and @tags x *".toList := fun name argument hsplit => by
    rw [hwords] at hsplit
    cases hsplit
  have hfront : ({} : Reading).steps 0 ["###".toList, "@name a".toList] =
      .ok { mode := .head { request := { name := some "a" } } } := rfl
  exact ⟨parse_docRemark hscript hcommented (.of_text htext hsilent) (by decide +kernel) hfront
    trivial, by decide +kernel⟩

/-- A doc comment whose marks share a star swallows the request behind it. -/
theorem docRemark_not_closed :
    ¬∀ (script commented : String) (front back : List (List Char)) (line : List Char)
        (reading : Reading) (draft : Option Draft), lines script.toList = front ++ back →
      lines commented.toList = front ++ line :: back → IsDocRemark line →
      ({} : Reading).steps 0 front = .ok reading → reading.mode = headMode draft →
        (parse commented).map unnumbered = (parse script).map unnumbered := by
  intro hneutral
  have hremark : IsDocRemark "/**/".toList := by
    refine ⟨by decide +kernel, by decide +kernel, fun text htext => ?_⟩
    have hlength := congrArg List.length htext
    rw [List.length_append, List.length_append] at hlength
    change 4 = 3 + text.length + 2 at hlength
    omega
  have hsame := hneutral "GET http://h/\n" "/**/\nGET http://h/\n" [] ["GET http://h/".toList, []]
    "/**/".toList {} none (by decide +kernel) (by decide +kernel) hremark rfl rfl
  have hnone : ((parse "/**/\nGET http://h/\n").map unnumbered).map (·.requests.map (·.url)) =
      .ok [] := by
    decide +kernel
  have hone : ((parse "GET http://h/\n").map unnumbered).map (·.requests.map (·.url)) =
      .ok ["http://h/"] := by
    decide +kernel
  rw [hsame, hone] at hnone
  exact absurd hnone (by decide)

end Document

end RequestScript
