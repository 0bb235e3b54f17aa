import RequestScript.Proofs.Script.Line
import RequestScript.Script.Document

/-!
# Reading a script line by line

What one line does to a reading that stands in a request: a line of the head adds what it says, a
blank line after the URL opens the body, a line of the body is kept as it is, and a block
separator finishes the request and opens the next one. From this follows what several lines do.
-/

namespace RequestScript

open Text

namespace Document

/-- A trimmed line that is none of the marks that stand outside requests. -/
structure Unmarked (cs : List Char) : Prop where
  /-- It is not blank. -/
  ne_nil : cs ≠ []
  /-- It does not open a configuration block. -/
  ne_config : cs ≠ Reading.configMarker
  /-- It does not open a doc comment. -/
  no_doc : ¬Reading.docStart <+: cs
  /-- It does not separate blocks. -/
  no_separator : ¬blockSeparator <+: cs

/-- A line that stays in a body. -/
@[mk_iff]
structure IsBodyLine (text : List Char) : Prop where
  /-- It does not open a directive. -/
  no_directive : ¬['@'] <+: trim text
  /-- It does not separate blocks. -/
  no_separator : ¬blockSeparator <+: trim text

/-- Whether a line stays in a body does not depend on the blanks around it. -/
theorem isBodyLine_trim (text : List Char) : IsBodyLine (trim text) ↔ IsBodyLine text := by
  simp only [isBodyLine_iff, trim_trim]

/-- A line that starts with none of `#`, `@` and `/` is no mark. -/
theorem unmarked_of_head {c : Char} (hc : c ∉ ['#', '@', '/']) (cs : List Char) :
    Unmarked (c :: cs) := by
  simp only [List.mem_cons, List.not_mem_nil, or_false, not_or] at hc
  refine ⟨List.cons_ne_nil c cs, fun heq => ?_, fun hdoc => ?_, fun hseparator => ?_⟩
  · exact hc.2.1 (List.cons.inj heq).1
  · exact hc.2.2 (List.cons_prefix_cons.mp hdoc).1.symm
  · exact hc.1 (List.cons_prefix_cons.mp hseparator).1.symm

/-- A directive whose name does not start like that of a configuration block is no mark. -/
theorem unmarked_of_directive {c : Char} (hc : c ≠ 'c') (cs : List Char) :
    Unmarked ('@' :: c :: cs) := by
  refine ⟨List.cons_ne_nil _ _, fun heq => ?_, fun hdoc => ?_, fun hseparator => ?_⟩
  · exact hc (List.cons.inj (List.cons.inj heq).2).1
  · exact absurd (List.cons_prefix_cons.mp hdoc).1 (by decide)
  · exact absurd (List.cons_prefix_cons.mp hseparator).1 (by decide)

/-- Without configuration blocks and anything for the whole script there are no defaults. -/
theorem resolveConfig_nil (request : Request) :
    resolveConfig [] (applyDefaults none [] request) = request := by
  obtain ⟨⟩ := request
  simp [resolveConfig, configFor?, applyDefaults]

end Document

/-- A line that is written for the head of a request is no mark. -/
theorem HeadLine.WellFormed.unmarked {line : HeadLine} (h : line.WellFormed) :
    Document.Unmarked (trim line.text) := by
  obtain ⟨tail, htrim, hrest, htail⟩ := h.trim_text
  rw [htrim]
  cases line with
  | id letters => exact Document.unmarked_of_directive (c := 'i') (by decide) _
  | name words => exact Document.unmarked_of_directive (c := 'n') (by decide) _
  | method verb url =>
    obtain ⟨c, more, hverb, hc⟩ := ScriptLine.exists_head_of_mem_methods h.1
    rw [lead, hverb]
    exact Document.unmarked_of_head hc _
  | header key value =>
    obtain ⟨c, more, hkey, hc⟩ := ScriptLine.exists_head_of_isHeaderName h.1
    rw [lead, hkey]
    exact Document.unmarked_of_head hc _

/-- A request with what the lines of a head say. -/
def Request.applyHead (request : Request) (lines : List HeadLine) : Request :=
  lines.foldl (fun request line => request.applyLine line.said) request

namespace Document.Reading

/-- Reading lines one after the other is reading the first ones and then the others. -/
theorem steps_append (reading : Reading) (index : Nat) (front back : List (List Char)) :
    reading.steps index (front ++ back) =
      reading.steps index front >>= fun next => next.steps (index + front.length) back := by
  induction front generalizing reading index with
  | nil => rfl
  | cons text front ih =>
    have hindex : index + 1 + front.length = index + (text :: front).length := by
      rw [List.length_cons]
      omega
    rw [List.cons_append, steps, steps]
    cases reading.step index text with
    | error fault => rfl
    | ok next =>
      rw [← hindex]
      exact ih next (index + 1)

variable {reading : Reading} {draft : Draft}

/-- A line of the head that is no mark is read, and adds what it says to the request. -/
theorem step_unmarked {text : List Char} (hmode : reading.mode = .head draft)
    (hmark : Unmarked (trim text)) (index : Nat) :
    reading.step index text = (ScriptLine.read (trim text)).map fun said =>
      { reading with mode := .head { draft with request := draft.request.applyLine said } } := by
  have hdoc : docStart.isPrefixOf (trim text) = false :=
    Bool.eq_false_iff.mpr (by simpa using hmark.no_doc)
  have hseparator : isSeparator (trim text) = false :=
    Bool.eq_false_iff.mpr (by simpa [isSeparator] using hmark.no_separator)
  have hempty : (trim text).isEmpty = false := by simpa using hmark.ne_nil
  cases hread : ScriptLine.read (trim text) <;>
    simp [step, line, headLine, hmode, hmark.ne_config, hdoc, hseparator, hempty, hread,
      Except.map, bind, Except.bind, pure, Except.pure]

/-- A line of the head adds what it says to the request. -/
theorem step_head {text : List Char} {said : ScriptLine} (hmode : reading.mode = .head draft)
    (hmark : Unmarked (trim text)) (hread : ScriptLine.read (trim text) = .ok said)
    (index : Nat) :
    reading.step index text =
      .ok { reading with
        mode := .head { draft with request := draft.request.applyLine said } } := by
  rw [step_unmarked hmode hmark, hread]
  rfl

/-- A blank line after the URL opens the body. -/
theorem step_blank {text : List Char} (hmode : reading.mode = .head draft) (hblank : trim text = [])
    (hurl : draft.request.url ≠ "") (index : Nat) :
    reading.step index text = .ok { reading with mode := .body draft } := by
  have hconfig : [] ≠ configMarker := by decide
  simp [step, line, headLine, hmode, hblank, hconfig, docStart, isSeparator, blockSeparator, hurl]

/-- A blank line before the URL says nothing. -/
theorem step_blank_of_no_url {text : List Char} (hmode : reading.mode = .head draft)
    (hblank : trim text = []) (hurl : draft.request.url = "") (index : Nat) :
    reading.step index text = .ok reading := by
  have hconfig : [] ≠ configMarker := by decide
  have hstep : reading.step index text = .ok { reading with mode := .head draft } := by
    simp [step, line, headLine, hmode, hblank, hconfig, docStart, isSeparator, blockSeparator, hurl]
  rw [hstep, ← hmode]

/-- A line of the body is kept as it is. -/
theorem step_body {text : List Char} (hmode : reading.mode = .body draft) (htext : IsBodyLine text)
    (index : Nat) :
    reading.step index text =
      .ok { reading with mode := .body { draft with body := text :: draft.body } } := by
  have hconfig : trim text ≠ configMarker := by
    intro heq
    exact htext.no_directive (heq ▸ by decide)
  have hat : ['@'].isPrefixOf (trim text) = false :=
    Bool.eq_false_iff.mpr (by simpa using htext.no_directive)
  have hmark : isSeparator (trim text) = false :=
    Bool.eq_false_iff.mpr (by simpa [isSeparator] using htext.no_separator)
  simp [step, line, hmode, hconfig, hat, hmark]

/-- Lines of the head add what they say, one after the other. -/
theorem steps_head (reading : Reading) (draft : Draft) {lines : List HeadLine}
    (h : ∀ line ∈ lines, line.WellFormed) (index : Nat) :
    ({ reading with mode := .head draft } : Reading).steps index (lines.map HeadLine.text) =
      .ok { reading with
        mode := .head { draft with request := draft.request.applyHead lines } } := by
  induction lines generalizing draft index with
  | nil => rfl
  | cons line rest ih =>
    have hline := h line List.mem_cons_self
    have hrest : ∀ other ∈ rest, other.WellFormed := fun other hmem =>
      h other (List.mem_cons_of_mem line hmem)
    rw [List.map_cons, steps, step_head rfl hline.unmarked hline.read_text]
    exact ih _ hrest (index + 1)

/-- Lines of the body are kept in their order, the last one first. -/
theorem steps_body (reading : Reading) (draft : Draft) {texts : List (List Char)}
    (h : ∀ text ∈ texts, IsBodyLine text) (index : Nat) :
    ({ reading with mode := .body draft } : Reading).steps index texts =
      .ok { reading with mode := .body { draft with body := texts.reverse ++ draft.body } } := by
  induction texts generalizing draft index with
  | nil => rfl
  | cons text rest ih =>
    have htext := h text List.mem_cons_self
    have hrest : ∀ other ∈ rest, IsBodyLine other := fun other hmem =>
      h other (List.mem_cons_of_mem text hmem)
    have hbody : (text :: rest).reverse ++ draft.body = rest.reverse ++ text :: draft.body := by
      simp
    rw [steps, step_body rfl htext, hbody]
    exact ih _ hrest (index + 1)

/-- A blank line after the URL and the lines of a body leave the body open. -/
theorem steps_blank_body (reading : Reading) (draft : Draft) {texts : List (List Char)}
    (hurl : draft.request.url ≠ "") (h : ∀ text ∈ texts, IsBodyLine text) (index : Nat) :
    ({ reading with mode := .head draft } : Reading).steps index ([] :: texts) =
      .ok { reading with mode := .body { draft with body := texts.reverse ++ draft.body } } := by
  rw [steps, step_blank rfl rfl hurl]
  exact steps_body reading draft h (index + 1)

/-! ## From one block to the next -/

/-- A reading that has come to a line with nothing but finished requests behind it, once whatever
is open has ended there. The last request comes first. -/
structure StandsAfter (reading : Reading) (index : Nat) (requests : List Request) : Prop where
  /-- No doc comment is open. -/
  no_doc : ∀ draft, reading.mode ≠ .doc draft
  /-- There are the requests, and neither configuration blocks nor anything for the whole
  script. -/
  closed : reading.closeBefore index = { requests }

/-- A block separator finishes what is open and opens the next request. -/
theorem StandsAfter.step_separator {index : Nat} {requests : List Request}
    (h : reading.StandsAfter index requests) :
    reading.step index blockSeparator = .ok { mode := .head (.start index), requests } := by
  have hconfig : trim blockSeparator ≠ configMarker := by decide
  have hdoc : docStart.isPrefixOf (trim blockSeparator) = false := by decide
  have hseparator : isSeparator (trim blockSeparator) = true := by decide
  have hclosed := h.closed
  obtain ⟨mode, finished, configs, collection, tags⟩ := reading
  cases mode with
  | doc draft => exact absurd rfl (h.no_doc draft)
  -- An open configuration block would be left behind when it is closed.
  | config current => simp [closeBefore] at hclosed
  | outside => simp [step, line, hconfig, hdoc, hseparator, hclosed]
  | head draft => simp [step, line, hconfig, hdoc, hseparator, hclosed]
  | body draft => simp [step, line, hconfig, hseparator, hclosed]

/-- An open request with a URL is finished before a line. -/
theorem standsAfter_of_draft {mode : Mode} {draft : Draft} {index : Nat} {request : Request}
    (hmode : mode = .head draft ∨ mode = .body draft)
    (hclose : draft.close? (index - 1) = some request) (requests : List Request) :
    ({ mode, requests } : Reading).StandsAfter index (request :: requests) := by
  rcases hmode with rfl | rfl
  · exact ⟨by simp, by simp [closeBefore, draft?, hclose]⟩
  · exact ⟨by simp, by simp [closeBefore, draft?, hclose]⟩

/-- What is read of a script that ends with nothing but finished requests. -/
theorem StandsAfter.ofReading {index : Nat} {requests : List Request}
    (h : reading.StandsAfter index requests) :
    Document.ofReading reading index = { requests := requests.reverse } := by
  simp [Document.ofReading, h.closed, resolveConfig_nil]

end Document.Reading

end RequestScript
