import RequestScript.Proofs.Script.Document
import RequestScript.Proofs.Script.Faults

/-!
# Blocks by themselves

Without configuration blocks and doc comments, what comes after a block separator is read as if it
were a script of its own: whatever the lines before the separator leave open is finished there. Only
the numbers of the lines tell where the block stands.
-/

namespace RequestScript

open Text

/-- A request whose block stands some lines further down. -/
def Request.shift (count : Nat) (request : Request) : Request :=
  { request with
    startLine := request.startLine + count
    endLine := request.endLine + count }

theorem Request.shift_applyLine (count : Nat) (request : Request) (said : ScriptLine) :
    (request.shift count).applyLine said = (request.applyLine said).shift count := by
  cases said with
  | comment | method | header | other => rfl
  | directive directive =>
    cases directive with
    | none => rfl
    | some directive => cases directive <;> rfl

namespace Document

/-- A line that opens neither a configuration block nor a doc comment. -/
structure IsPlainLine (text : List Char) : Prop where
  /-- It does not open a configuration block. -/
  ne_config : trim text ≠ Reading.configMarker
  /-- It does not open a doc comment. -/
  no_doc : ¬Reading.docStart <+: trim text

/-- A script of requests only, on lines that end with line feeds. -/
structure IsPlainScript (script : String) : Prop where
  /-- There are no carriage returns. -/
  no_return : '\r' ∉ script.toList
  /-- No line opens a configuration block or a doc comment. -/
  lines : ∀ text ∈ lines script.toList, IsPlainLine text

instance (text : List Char) : Decidable (IsPlainLine text) :=
  decidable_of_iff (trim text ≠ Reading.configMarker ∧ ¬Reading.docStart <+: trim text)
    ⟨fun ⟨ne_config, no_doc⟩ => { ne_config, no_doc }, fun h => ⟨h.ne_config, h.no_doc⟩⟩

instance (script : String) : Decidable (IsPlainScript script) :=
  decidable_of_iff ('\r' ∉ script.toList ∧ ∀ text ∈ lines script.toList, IsPlainLine text)
    ⟨fun ⟨no_return, lines⟩ => { no_return, lines }, fun h => ⟨h.no_return, h.lines⟩⟩

/-! ## Drafts further down -/

namespace Draft

variable (count : Nat)

/-- A draft of a request whose block stands some lines further down. -/
def shift (draft : Draft) : Draft :=
  { draft with request := draft.request.shift count }

theorem shift_start (line : Nat) : (start line).shift count = start (line + count) := rfl

theorem shift_endBody (draft : Draft) :
    (draft.shift count).endBody = draft.endBody.shift count := by
  unfold endBody
  dsimp only [shift]
  split <;> rfl

theorem shift_close? (draft : Draft) (line : Nat) :
    (draft.shift count).close? (line + count) = (draft.close? line).map (·.shift count) := by
  unfold close?
  rw [shift_endBody]
  dsimp only [shift, Request.shift]
  split <;> rfl

end Draft

/-- Where a reading stands, some lines further down. -/
def Mode.shift (count : Nat) : Mode → Mode
  | .head draft => .head (draft.shift count)
  | .body draft => .body (draft.shift count)
  | mode => mode

namespace Reading

/-- A reading that has come across requests only, and stands in no doc comment. -/
structure IsPlain (reading : Reading) : Prop where
  /-- No doc comment is open. -/
  no_doc : ∀ draft, reading.mode ≠ .doc draft
  /-- No configuration block is open. -/
  no_config : ∀ current, reading.mode ≠ .config current
  /-- No configuration block has been finished. -/
  configs : reading.configs = []
  /-- Nothing has been said about the whole script. -/
  collection : reading.collection = none
  /-- The whole script has no tags. -/
  tags : reading.tags = []

variable {reading next : Reading} {index : Nat} {text : List Char}

namespace IsPlain

/-- Once what is open has ended there are finished requests and nothing else. -/
theorem standsAfter (h : reading.IsPlain) (index : Nat) :
    reading.StandsAfter index (reading.closeBefore index).requests := by
  refine ⟨h.no_doc, ?_⟩
  obtain ⟨mode, requests, configs, collection, tags⟩ := reading
  obtain ⟨hdoc, hconfig, rfl, rfl, rfl⟩ := h
  cases mode with
  | outside | head _ | body _ => rfl
  | doc draft => exact absurd rfl (hdoc draft)
  | config current => exact absurd rfl (hconfig current)

/-- A line that opens neither a configuration block nor a doc comment either separates blocks or is
no mark. -/
theorem step_eq (h : reading.IsPlain) (htext : IsPlainLine text) (index : Nat) :
    reading.step index text =
      if isSeparator (trim text) then
        .ok { reading.closeBefore index with mode := .head (.start index) }
      else reading.unmarkedLine index text := by
  have hdoc : docStart.isPrefixOf (trim text) = false :=
    Bool.eq_false_iff.mpr (by simpa using htext.no_doc)
  have hline : reading.step index text = reading.line index text := by
    unfold step
    split
    · next current hmode => exact absurd hmode (h.no_config current)
    · rfl
  rw [hline, line_eq h.no_doc, if_neg htext.ne_config, hdoc, Bool.and_false]
  rfl

theorem with_mode (h : reading.IsPlain) {mode : Mode} (hdoc : ∀ draft, mode ≠ .doc draft)
    (hconfig : ∀ current, mode ≠ .config current) : ({ reading with mode } : Reading).IsPlain :=
  ⟨hdoc, hconfig, h.configs, h.collection, h.tags⟩

theorem headLine (h : reading.IsPlain) {draft : Draft}
    (hline : reading.headLine draft (trim text) = .ok next) : next.IsPlain := by
  obtain ⟨taken, _, rfl | rfl⟩ := headLine_takes hline
  · exact h.with_mode (by simp) (by simp)
  · exact h.with_mode (by simp) (by simp)

/-- No line that opens neither a configuration block nor a doc comment leads to one. -/
theorem step (h : reading.IsPlain) (htext : IsPlainLine text)
    (hstep : reading.step index text = .ok next) : next.IsPlain := by
  rw [h.step_eq htext] at hstep
  split at hstep
  · obtain rfl := Except.ok.inj hstep
    rw [(h.standsAfter index).closed]
    exact ⟨by simp, by simp, rfl, rfl, rfl⟩
  unfold unmarkedLine at hstep
  split at hstep
  · exact h.headLine hstep
  · split at hstep
    · exact h.headLine hstep
    · obtain rfl := Except.ok.inj hstep
      exact h.with_mode (by simp) (by simp)
  · split at hstep
    · obtain rfl := Except.ok.inj hstep
      exact h
    · exact h.headLine hstep

theorem takesDirective (h : reading.IsPlain) (text : List Char) :
    reading.TakesDirective text := by
  unfold TakesDirective
  cases hmode : reading.mode with
  | doc draft => exact h.no_doc draft hmode
  | config current => exact absurd hmode (h.no_config current)
  | outside | head draft | body draft => trivial

/-- Whether plain lines can be read does not depend on what has come before them. -/
theorem exists_steps_iff (h : reading.IsPlain) {texts : List (List Char)}
    (htexts : ∀ text ∈ texts, IsPlainLine text) :
    (∃ next, reading.steps index texts = .ok next) ↔
      ∀ text ∈ texts, ¬ScriptLine.IsOverlong (trim text) := by
  induction texts generalizing reading index with
  | nil => simp [Reading.steps]
  | cons text rest ih =>
    have htext : IsPlainLine text := htexts text List.mem_cons_self
    have hrest : ∀ other ∈ rest, IsPlainLine other := fun other hmem =>
      htexts other (List.mem_cons_of_mem text hmem)
    rw [List.forall_mem_cons, Reading.steps]
    cases hstep : reading.step index text with
    | error fault =>
      have hlong := (step_eq_error_iff.mp hstep).2.2
      simp [hlong, bind, Except.bind]
    | ok middle =>
      have hread : ¬ScriptLine.IsOverlong (trim text) := by
        intro hlong
        have herror : reading.step index text = .error .numeralTooLong :=
          step_eq_error_iff.mpr ⟨rfl, h.takesDirective text, hlong⟩
        rw [hstep] at herror
        cases herror
      simpa [hread, bind, Except.bind] using ih (h.step htext hstep) hrest

theorem steps (h : reading.IsPlain) {texts : List (List Char)}
    (htexts : ∀ text ∈ texts, IsPlainLine text) (hsteps : reading.steps index texts = .ok next) :
    next.IsPlain := by
  have hkeeps : ∀ text ∈ texts, ∀ {index : Nat} {reading next : Reading}, reading.IsPlain →
      reading.step index text = .ok next → next.IsPlain :=
    fun text hmem _ _ _ hreading hstep => hreading.step (htexts text hmem) hstep
  exact @steps_induction reading next index (fun _ reading => reading.IsPlain) texts hkeeps h hsteps

end IsPlain

/-! ## Readings further down -/

/-- A reading of requests, some lines further down, with other requests behind it. -/
def after (count : Nat) (earlier : List Request) (reading : Reading) : Reading :=
  { reading with
    mode := reading.mode.shift count
    requests := reading.requests.map (·.shift count) ++ earlier }

variable (count : Nat) (earlier : List Request)

theorem after_closeBefore (h : reading.IsPlain) (hindex : 0 < index) :
    (reading.after count earlier).closeBefore (index + count) =
      (reading.closeBefore index).after count earlier := by
  have hline : index + count - 1 = index - 1 + count := by omega
  obtain ⟨mode, requests, configs, collection, tags⟩ := reading
  cases mode with
  | outside => rfl
  | doc draft => exact absurd rfl (h.no_doc draft)
  | config current => exact absurd rfl (h.no_config current)
  | head draft | body draft =>
    simp only [after, Mode.shift, closeBefore, draft?, hline, Draft.shift_close?]
    cases draft.close? (index - 1) <;> rfl

theorem after_headLine (draft : Draft) (cs : List Char) :
    (reading.after count earlier).headLine (draft.shift count) cs =
      (reading.headLine draft cs).map (after count earlier) := by
  have hurl : (draft.shift count).request.url = draft.request.url := rfl
  unfold headLine
  rw [hurl]
  split
  · dsimp only [Except.map, after]
    split <;> rfl
  · cases ScriptLine.read cs with
    | error fault => rfl
    | ok said =>
      simp only [bind, Except.bind, pure, Except.pure, Except.map, after, Mode.shift, Draft.shift,
        Request.shift_applyLine]

theorem after_unmarkedLine (h : reading.IsPlain) :
    (reading.after count earlier).unmarkedLine (index + count) text =
      (reading.unmarkedLine index text).map (after count earlier) := by
  cases hmode : reading.mode with
  | doc draft => exact absurd hmode (h.no_doc draft)
  | config current => exact absurd hmode (h.no_config current)
  | outside =>
    have hafter : (reading.after count earlier).mode = .outside := by
      simp [after, hmode, Mode.shift]
    simp only [unmarkedLine, hmode, hafter]
    split
    · rfl
    · rw [← Draft.shift_start, after_headLine]
  | head draft =>
    have hafter : (reading.after count earlier).mode = .head (draft.shift count) := by
      simp [after, hmode, Mode.shift]
    simp only [unmarkedLine, hmode, hafter]
    exact after_headLine count earlier draft (trim text)
  | body draft =>
    have hafter : (reading.after count earlier).mode = .body (draft.shift count) := by
      simp [after, hmode, Mode.shift]
    simp only [unmarkedLine, hmode, hafter]
    split
    · rw [Draft.shift_endBody, after_headLine]
    · rfl

theorem IsPlain.after (h : reading.IsPlain) : (reading.after count earlier).IsPlain := by
  refine ⟨?_, ?_, h.configs, h.collection, h.tags⟩
  all_goals
    have hdoc := h.no_doc
    have hconfig := h.no_config
    cases hmode : reading.mode <;> simp_all [Reading.after, Mode.shift]

/-- A line does the same further down. -/
theorem after_step (h : reading.IsPlain) (htext : IsPlainLine text) (hindex : 0 < index) :
    (reading.after count earlier).step (index + count) text =
      (reading.step index text).map (after count earlier) := by
  rw [(h.after count earlier).step_eq htext, h.step_eq htext,
    after_closeBefore count earlier h hindex]
  split
  · rfl
  · exact after_unmarkedLine count earlier h

/-- Several lines do the same further down. -/
theorem after_steps (h : reading.IsPlain) {texts : List (List Char)}
    (htexts : ∀ text ∈ texts, IsPlainLine text) (hindex : 0 < index) :
    (reading.after count earlier).steps (index + count) texts =
      (reading.steps index texts).map (after count earlier) := by
  induction texts generalizing reading index with
  | nil => rfl
  | cons text rest ih =>
    have htext : IsPlainLine text := htexts text List.mem_cons_self
    have hrest : ∀ other ∈ rest, IsPlainLine other := fun other hmem =>
      htexts other (List.mem_cons_of_mem text hmem)
    rw [steps, steps, after_step count earlier h htext hindex]
    cases hstep : reading.step index text with
    | error fault => rfl
    | ok next =>
      have hline : index + count + 1 = index + 1 + count := by omega
      simp only [Except.map, bind, Except.bind, hline]
      exact ih (h.step htext hstep) hrest (Nat.succ_pos index)

/-- What comes after a block separator is read further down, with what was open finished behind
it. -/
theorem IsPlain.steps_separator (h : reading.IsPlain) {texts : List (List Char)}
    (htexts : ∀ text ∈ texts, IsPlainLine text) {closing : Reading}
    (hclosing : ({ mode := .head (.start 0) } : Reading).steps 1 texts = .ok closing) :
    reading.steps count (blockSeparator :: texts) =
      .ok (closing.after count (reading.closeBefore count).requests) := by
  have hopened : ({ mode := .head (.start 0) } : Reading).IsPlain :=
    ⟨by simp, by simp, rfl, rfl, rfl⟩
  have hsteps := after_steps count (reading.closeBefore count).requests hopened htexts Nat.one_pos
  have hstart : ({ mode := .head (.start 0) } : Reading).after count
      (reading.closeBefore count).requests =
        { mode := .head (.start count), requests := (reading.closeBefore count).requests } := by
    simp [Reading.after, Mode.shift, Draft.shift_start]
  rw [hstart, hclosing, Nat.add_comm] at hsteps
  rw [Reading.steps, (h.standsAfter count).step_separator]
  exact hsteps

end Reading

/-- The lines of a text that is put after a block separator. -/
theorem lines_separator_append (back : List Char) :
    lines (blockSeparator ++ '\n' :: back) = blockSeparator :: lines back :=
  @lines_append_lineFeed blockSeparator (by decide) back

/-- A block that stands alone is read by the lines behind its separator. -/
theorem parse_separator_append {back : String} {closing : Reading}
    (h : ({ mode := .head (.start 0) } : Reading).steps 1 (lines back.toList) = .ok closing) :
    parse ("###\n" ++ back) = .ok (ofReading closing (1 + (lines back.toList).length)) := by
  have hempty : ({} : Reading).IsPlain := ⟨by simp, by simp, rfl, rfl, rfl⟩
  have hopen : ({} : Reading).step 0 blockSeparator = .ok { mode := .head (.start 0) } :=
    (hempty.standsAfter 0).step_separator
  have hlines : lines ("###\n" ++ back).toList = blockSeparator :: lines back.toList := by
    rw [String.toList_append]
    exact lines_separator_append back.toList
  have hsteps : ({} : Reading).steps 0 (lines ("###\n" ++ back).toList) = .ok closing := by
    rw [hlines, Reading.steps, hopen]
    exact h
  rw [parse_eq, hsteps, hlines, List.length_cons, Nat.add_comm]
  rfl

/-- A block behind another script is read by the same lines, further down. -/
theorem parse_append_separator_append {front back : String} {reading closing : Reading}
    (hfront : IsPlainScript front) (hback : IsPlainScript back)
    (hreading : ({} : Reading).steps 0 (lines front.toList) = .ok reading)
    (hplain : reading.IsPlain)
    (hclosing : ({ mode := .head (.start 0) } : Reading).steps 1 (lines back.toList) =
      .ok closing) :
    parse (front ++ "\n###\n" ++ back) =
      .ok (ofReading (closing.after (lines front.toList).length
          (reading.closeBefore (lines front.toList).length).requests)
        (1 + (lines back.toList).length + (lines front.toList).length)) := by
  have hreturn : front.toList.getLast? ≠ some '\r' := fun h =>
    hfront.no_return (List.mem_of_getLast? h)
  have hlines : lines (front ++ "\n###\n" ++ back).toList =
      lines front.toList ++ blockSeparator :: lines back.toList := by
    rw [String.toList_append, String.toList_append, List.append_assoc,
      ← lines_separator_append, ← lines_append_lineFeed hreturn]
    rfl
  have hcount : (lines front.toList).length + ((lines back.toList).length + 1) =
      1 + (lines back.toList).length + (lines front.toList).length := by
    omega
  rw [parse_eq, hlines, Reading.steps_append, hreading, List.length_append, List.length_cons,
    hcount, Nat.zero_add]
  simp only [bind, Except.bind]
  rw [hplain.steps_separator _ hback.lines hclosing]
  rfl

/-- **A block is read as if it were a script of its own**: what comes after a block separator says
the same requests as without what comes before, only further down, and what comes before says the
same as if the script ended there. -/
theorem parse_append {front back : String} {first last : Document}
    (hfront : IsPlainScript front) (hback : IsPlainScript back)
    (hfirst : parse front = .ok first) (hlast : parse back = .ok last) :
    ∃ block, parse ("###\n" ++ back) = .ok block ∧
      parse (front ++ "\n###\n" ++ back) = .ok
        { requests := first.requests ++
            block.requests.map (·.shift (lines front.toList).length) } := by
  obtain ⟨reading, hreading, rfl⟩ := exists_reading_of_parse hfirst
  obtain ⟨lastReading, hlastReading, _⟩ := exists_reading_of_parse hlast
  have hempty : ({} : Reading).IsPlain := ⟨by simp, by simp, rfl, rfl, rfl⟩
  have hopened : ({ mode := .head (.start 0) } : Reading).IsPlain :=
    ⟨by simp, by simp, rfl, rfl, rfl⟩
  have hplain : reading.IsPlain := hempty.steps hfront.lines hreading
  have hshort := (hempty.exists_steps_iff hback.lines).mp ⟨lastReading, hlastReading⟩
  obtain ⟨closing, hclosing⟩ : ∃ closing, ({ mode := .head (.start 0) } : Reading).steps 1
      (lines back.toList) = .ok closing := (hopened.exists_steps_iff hback.lines).mpr hshort
  have hclosingPlain : closing.IsPlain := hopened.steps hback.lines hclosing
  refine ⟨_, parse_separator_append hclosing, ?_⟩
  rw [parse_append_separator_append hfront hback hreading hplain hclosing,
    (hplain.standsAfter _).ofReading, (hclosingPlain.standsAfter _).ofReading,
    ((hclosingPlain.after _ _).standsAfter _).ofReading,
    Reading.after_closeBefore _ _ hclosingPlain (by omega)]
  simp [Reading.after]

/-- The first block leaves its body open, and the second one ends with a directive. -/
theorem parse_append_open_body :
    ∃ block, parse ("###\n" ++ "POST /two\n\n[]\n@timeout 5") = .ok block ∧
      parse ("GET /one\n\n[1," ++ "\n###\n" ++ "POST /two\n\n[]\n@timeout 5") = .ok
        { requests := [{ url := "/one", body := some "[1,", endLine := 2 }] ++
            block.requests.map (·.shift 3) } := by
  have hfirst : parse "GET /one\n\n[1," =
      .ok { requests := [{ url := "/one", body := some "[1,", endLine := 2 }] } := by
    rfl
  have hlast : parse "POST /two\n\n[]\n@timeout 5" =
      .ok { requests := [{ method := "POST", url := "/two", body := some "[]"
                           timeout := some 5, endLine := 3 }] } := by
    rfl
  exact parse_append (by decide) (by decide) hfirst hlast

end Document

end RequestScript
