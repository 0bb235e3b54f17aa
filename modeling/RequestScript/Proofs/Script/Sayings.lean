import Mathlib.Data.List.Basic
import RequestScript.Proofs.Script.Document
import RequestScript.Proofs.Script.Step

/-!
# What the lines of a block say

A finished request is its body and what the other lines of its block say about it, one after the
other. The lines of doc comments say nothing about it, and those of the body only make up the body.
-/

namespace RequestScript

open Text

/-- A request without its body. -/
def Request.bodiless (request : Request) : Request :=
  { request with body := none }

/-- A request with what a line says, if it says something. -/
def Request.hear (request : Request) (said : Option ScriptLine) : Request :=
  said.elim request request.applyLine

/-- The request whose block starts at a line and says nothing but this. -/
def Request.ofSayings (first : Nat) (sayings : List ScriptLine) : Request :=
  sayings.foldl Request.applyLine { startLine := first, endLine := first }

/-- What only some kinds of lines tell is told by the last of these lines. -/
theorem Request.field_ofSayings {α β : Type} {field : Request → β} {value : α → β}
    {told? : ScriptLine → Option α}
    (hline : ∀ request said,
      field (applyLine request said) = ((told? said).map value).getD (field request))
    (first : Nat) (sayings : List ScriptLine) :
    field (ofSayings first sayings) =
      ((sayings.filterMap told?).getLast?.map value).getD
        (field { startLine := first, endLine := first }) := by
  induction sayings using List.reverseRecOn with
  | nil => rfl
  | append_singleton sayings said ih =>
    rw [ofSayings, List.foldl_append, ← ofSayings, List.foldl_cons, List.foldl_nil, hline, ih,
      List.filterMap_append, List.getLast?_append]
    cases htold : told? said with
    | none => simp [htold]
    | some value => simp [htold]

/-- What a line says has nothing to do with the body. -/
theorem Request.hear_withBody (request : Request) (said : Option ScriptLine)
    (body : Option String) :
    { request with body }.hear said = { request.hear said with body } := by
  cases said with
  | none => rfl
  | some said =>
    cases said with
    | comment | method | header | other => rfl
    | directive directive =>
      cases directive with
      | none => rfl
      | some directive => cases directive <;> rfl

theorem Request.bodiless_hear (request : Request) (said : Option ScriptLine) :
    (request.hear said).bodiless = request.bodiless.hear said :=
  (request.hear_withBody said none).symm

theorem Request.body_hear (request : Request) (said : Option ScriptLine) :
    (request.hear said).body = request.body := by
  have hsame : request.hear said = { request.hear said with body := request.body } :=
    request.hear_withBody said request.body
  rw [hsame]

theorem Request.startLine_hear (request : Request) (said : Option ScriptLine) :
    (request.hear said).startLine = request.startLine := by
  cases said with
  | none => rfl
  | some said => exact startLine_applyLine request said

namespace Document

namespace Reading

/-- What a line says about the request that it belongs to: nothing in a doc comment and in a
body. -/
def said? (reading : Reading) (text : List Char) : Option ScriptLine :=
  let said := (ScriptLine.read (trim text)).toOption
  match reading.mode with
  | .doc _ => none
  | .body _ => if ['@'].isPrefixOf (trim text) then said else none
  | _ => if docStart.isPrefixOf (trim text) then none else said

end Reading

/-- What the line with a number says about the request that it belongs to. -/
def saidAt (texts : List (List Char)) (index : Nat) : Option ScriptLine :=
  match ({} : Reading).steps 0 (texts.take index), texts[index]? with
  | .ok reading, some text => reading.said? text
  | _, _ => none

/-- What a line says is read from its text. -/
theorem Reading.read_of_said? {reading : Reading} {text : List Char} {said : ScriptLine}
    (h : reading.said? text = some said) : ScriptLine.read (trim text) = .ok said := by
  have hsome : (ScriptLine.read (trim text)).toOption = some said := by
    unfold said? at h
    split at h
    · cases h
    · split at h
      · exact h
      · cases h
    · split at h
      · cases h
      · exact h
  cases hread : ScriptLine.read (trim text) with
  | error fault => simp [hread, Except.toOption] at hsome
  | ok content =>
    rw [hread] at hsome
    exact congrArg Except.ok (Option.some.inj hsome)

/-- What the line with a number says is read from that line. -/
theorem exists_line_of_saidAt {texts : List (List Char)} {index : Nat} {said : ScriptLine}
    (h : saidAt texts index = some said) :
    ∃ line, texts[index]? = some line ∧ ScriptLine.read (trim line) = .ok said := by
  unfold saidAt at h
  split at h
  · next reading text _ hline => exact ⟨text, hline, Reading.read_of_said? h⟩
  · cases h

theorem exists_read_of_saidAt {texts : List (List Char)} {index : Nat} {said : ScriptLine}
    (h : saidAt texts index = some said) : ∃ text, ScriptLine.read (trim text) = .ok said :=
  (exists_line_of_saidAt h).imp fun _ hline => hline.2

/-- What the lines from one number up to another one say, the last one left out. -/
def sayings (texts : List (List Char)) (first last : Nat) : List ScriptLine :=
  (List.range' first (last - first)).filterMap (saidAt texts)

/-- A request is what the lines of its block say, and its body has no blanks around it. -/
structure IsTold (texts : List (List Char)) (request : Request) : Prop where
  /-- All but the body is what the lines say. -/
  bodiless : request.bodiless =
    { Request.ofSayings request.startLine (sayings texts request.startLine (request.endLine + 1))
      with endLine := request.endLine }
  /-- The body is not blank and has no blanks around it. -/
  body : ∀ body ∈ request.body, Stripped body
  /-- There is a URL. -/
  url : request.url ≠ ""

/-- An open request is what the lines of its block have said so far. -/
structure Draft.IsTold (texts : List (List Char)) (index : Nat) (draft : Draft) : Prop where
  /-- All but the body is what the lines say. -/
  bodiless : draft.request.bodiless =
    .ofSayings draft.request.startLine (sayings texts draft.request.startLine index)
  /-- A body that has ended is not blank and has no blanks around it. -/
  body : ∀ body ∈ draft.request.body, Stripped body

variable {texts : List (List Char)} {first last index : Nat}

/-- One line more says what it says. -/
theorem ofSayings_succ (texts : List (List Char)) (h : first ≤ last) :
    Request.ofSayings first (sayings texts first (last + 1)) =
      (Request.ofSayings first (sayings texts first last)).hear (saidAt texts last) := by
  have hlength : last + 1 - first = last - first + 1 := by omega
  have hlast : first + (last - first) = last := by omega
  rw [sayings, hlength, List.range'_1_concat, hlast, List.filterMap_append, ← sayings,
    Request.ofSayings, List.foldl_append, ← Request.ofSayings]
  cases hsaid : saidAt texts last with
  | none => simp [hsaid, Request.hear]
  | some said => simp [hsaid, Request.hear]

/-- The lines of a block have said nothing before the first one. -/
theorem ofSayings_self (texts : List (List Char)) (first : Nat) :
    Request.ofSayings first (sayings texts first first) = (Draft.start first).request := by
  simp [sayings, Request.ofSayings, Draft.start]

namespace Draft

theorem bodiless_endBody (draft : Draft) :
    draft.endBody.request.bodiless = draft.request.bodiless := by
  unfold endBody
  dsimp only
  split <;> rfl

theorem isTold_start (texts : List (List Char)) (index : Nat) : (start index).IsTold texts index :=
  ⟨(ofSayings_self texts index).symm, fun _ hbody => by cases hbody⟩

namespace IsTold

variable {draft : Draft}

/-- A body that ends is kept without the blanks around it, and only if it is not blank. -/
theorem endBody (h : draft.IsTold texts index) : draft.endBody.IsTold texts index := by
  refine ⟨?_, ?_⟩
  · rw [bodiless_endBody, startLine_endBody]
    exact h.bodiless
  · unfold Draft.endBody
    dsimp only
    split
    · exact h.body
    · next hne =>
      intro body hbody
      obtain rfl := Option.some.inj hbody
      exact stripped_ofList_trim fun hempty => hne (List.isEmpty_iff.mpr hempty)

/-- A line that is heard is one line more. -/
theorem hear (h : draft.IsTold texts index) {taken : Draft}
    (hstart : draft.request.startLine ≤ index)
    (htaken : taken.request = draft.request.hear (saidAt texts index)) :
    taken.request.startLine < index + 1 ∧ taken.IsTold texts (index + 1) := by
  have hfirst : taken.request.startLine = draft.request.startLine := by
    rw [htaken, Request.startLine_hear]
  refine ⟨by omega, ?_, ?_⟩
  · rw [hfirst, ofSayings_succ texts hstart, ← h.bodiless, htaken, Request.bodiless_hear]
  · rw [htaken, Request.body_hear]
    exact h.body

/-- A request that ends before a line is told by the lines before it. -/
theorem close? (h : draft.IsTold texts index) (hstart : draft.request.startLine < index)
    {request : Request} (hclose : draft.close? (index - 1) = some request) :
    Document.IsTold texts request := by
  obtain ⟨hrequest, hurl⟩ := Draft.close?_eq_some hclose
  have hended : draft.endBody.IsTold texts index := h.endBody
  have hindex : index - 1 + 1 = index := by omega
  refine ⟨?_, ?_, by simpa using hurl⟩
  · have hbodiless : request.bodiless =
        { draft.endBody.request.bodiless with endLine := index - 1 } := by
      rw [hrequest]
      rfl
    rw [hbodiless, hended.bodiless, hrequest, hindex]
  · rw [hrequest]
    exact hended.body

end IsTold

end Draft

namespace Reading

variable {reading next : Reading} {text : List Char}

/-- The request that is open after a line has heard what the line says. It is the one that has been
open, perhaps with a body that ends before the line, or a new one. -/
def Hears (index : Nat) (text : List Char) (reading next : Reading) : Prop :=
  ∀ taken, next.draft? = some taken →
    ∃ draft, (reading.draft? = some draft ∨ draft = .start index) ∧
      (taken.request = draft.request.hear (reading.said? text) ∨
        taken.request = draft.endBody.request.hear (reading.said? text))

/-- A line in the head of a request is heard. -/
theorem headLine_hears {draft taken : Draft} (h : reading.headLine draft (trim text) = .ok next)
    (htaken : next.draft? = some taken) :
    taken.request = draft.request.hear (ScriptLine.read (trim text)).toOption := by
  unfold headLine at h
  split at h
  · next hempty =>
    have hblank : trim text = [] := List.isEmpty_iff.mp hempty
    have hread : ScriptLine.read [] = .ok .other := rfl
    obtain rfl := Except.ok.inj h
    rw [hblank, hread]
    cases hurl : draft.request.url.isEmpty <;>
      (simp only [hurl, draft?] at htaken; cases htaken; rfl)
  · obtain ⟨said, hread, hnext⟩ := bind_eq_ok_iff.mp h
    obtain rfl := Except.ok.inj hnext
    cases htaken
    rw [hread]
    rfl

/-- A line that is no mark is heard, unless it belongs to a body. -/
theorem unmarkedLine_hears (hconfig : ∀ current, reading.mode ≠ .config current)
    (hdoc : ∀ draft, reading.mode ≠ .doc draft)
    (hmark : reading.isInBody = false → docStart.isPrefixOf (trim text) = false)
    (h : reading.unmarkedLine index text = .ok next) : Hears index text reading next := by
  intro taken htaken
  unfold unmarkedLine at h
  unfold isInBody at hmark
  cases hmode : reading.mode with
  | doc draft => exact absurd hmode (hdoc draft)
  | config current => exact absurd hmode (hconfig current)
  | outside =>
    have hopen : reading.draft? = none := by rw [draft?, hmode]
    simp only [hmode, true_implies] at h hmark
    split at h
    · obtain rfl := Except.ok.inj h
      simp [hopen] at htaken
    · refine ⟨_, .inr rfl, .inl ?_⟩
      simp only [said?, hmode, hmark, Bool.false_eq_true, if_false]
      exact headLine_hears h htaken
  | head draft =>
    have hopen : reading.draft? = some draft := by rw [draft?, hmode]
    simp only [hmode, true_implies] at h hmark
    refine ⟨draft, .inl hopen, .inl ?_⟩
    simp only [said?, hmode, hmark, Bool.false_eq_true, if_false]
    exact headLine_hears h htaken
  | body draft =>
    have hopen : reading.draft? = some draft := by rw [draft?, hmode]
    simp only [hmode] at h
    split at h
    · next hat =>
      refine ⟨draft, .inl hopen, .inr ?_⟩
      simp only [said?, hmode, hat, if_true]
      exact headLine_hears h htaken
    · next hat =>
      obtain rfl := Except.ok.inj h
      cases htaken
      refine ⟨draft, .inl hopen, .inl ?_⟩
      simp only [said?, hmode, hat, Bool.false_eq_true, if_false]
      rfl

/-- A separator is a comment to the request that it opens. -/
theorem hear_separator (h : isSeparator (trim text) = true) (request : Request) :
    request.hear (reading.said? text) = request := by
  obtain ⟨rest, hrest⟩ : blockSeparator <+: trim text := by simpa [isSeparator] using h
  have hread : ScriptLine.read (trim text) = .ok .comment := by rw [← hrest]; rfl
  unfold said?
  rw [hread]
  dsimp only
  split
  · rfl
  · split <;> rfl
  · split <;> rfl

theorem line_hears (hconfig : ∀ current, reading.mode ≠ .config current)
    (h : reading.line index text = .ok next) : Hears index text reading next := by
  -- A doc comment leaves open what is open, and says nothing about it.
  have hkept (hnone : reading.said? text = none) (cs : List Char)
      (heq : next = reading.docLine reading.draft? cs) : Hears index text reading next := by
    intro taken htaken
    rw [heq, draft?_docLine] at htaken
    refine ⟨taken, .inl htaken, .inl ?_⟩
    rw [hnone]
    rfl
  by_cases hdoc : ∃ draft, reading.mode = .doc draft
  · obtain ⟨draft, hmode⟩ := hdoc
    have hline : reading.line index text = .ok (reading.docLine reading.draft? (trim text)) := by
      rw [line, draft?, hmode]
    exact hkept (by rw [said?, hmode]) _ (Except.ok.inj (h.symm.trans hline))
  rw [not_exists] at hdoc
  rw [line_eq hdoc] at h
  split at h
  · obtain rfl := Except.ok.inj h
    intro taken htaken
    cases htaken
  split at h
  · next hmark =>
    rw [Bool.and_eq_true, Bool.not_eq_true'] at hmark
    refine hkept ?_ _ (Except.ok.inj h).symm
    unfold said?
    unfold isInBody at hmark
    cases hmode : reading.mode <;> simp_all
  next hnot =>
  have hmark : reading.isInBody = false → docStart.isPrefixOf (trim text) = false := by
    intro hbody
    rw [hbody] at hnot
    exact Bool.eq_false_iff.mpr hnot
  split at h
  · next hseparator =>
    obtain rfl := Except.ok.inj h
    intro taken htaken
    cases htaken
    exact ⟨_, .inr rfl, .inl (hear_separator hseparator _).symm⟩
  · exact unmarkedLine_hears hconfig hdoc hmark h

/-- Every line of an open request is heard. -/
theorem step_hears (h : reading.step index text = .ok next) : Hears index text reading next := by
  unfold step at h
  cases hmode : reading.mode with
  | outside | head _ | body _ | doc _ =>
    simp only [hmode] at h
    exact line_hears (by simp [hmode]) h
  | config current =>
    simp only [hmode] at h
    split at h
    · obtain rfl := Except.ok.inj h
      intro taken htaken
      cases htaken
    · -- Where the block has been finished the line is heard as it would be inside the block.
      have hclosed : (reading.closeBefore index).mode = .outside := by
        rw [closeBefore_of_config hmode]
      have hsaid : (reading.closeBefore index).said? text = reading.said? text := by
        simp only [said?, hclosed, hmode]
      have hopen : (reading.closeBefore index).draft? = none := by rw [draft?, hclosed]
      have hhears := line_hears (by simp [hclosed]) h
      intro taken htaken
      obtain ⟨draft, hdraft, htakes⟩ := hhears taken htaken
      rw [hopen] at hdraft
      rw [hsaid] at htakes
      exact ⟨draft, .inr (hdraft.resolve_left (by simp)), htakes⟩

/-- What has been read before a line is told: the open request by its lines so far, and the finished
requests by theirs. -/
structure IsTold (texts : List (List Char)) (index : Nat) (reading : Reading) : Prop where
  /-- The open request started before the line. -/
  open_lt : ∀ draft, reading.draft? = some draft → draft.request.startLine < index
  /-- The open request is told. -/
  isTold_open : ∀ draft, reading.draft? = some draft → draft.IsTold texts index
  /-- The finished requests are told. -/
  isTold_finished : ∀ request ∈ reading.requests, Document.IsTold texts request

/-- Whatever ends before a line is told by the lines before it. -/
theorem IsTold.closeBefore (h : reading.IsTold texts index) :
    ∀ request ∈ (reading.closeBefore index).requests, Document.IsTold texts request := by
  cases hopen : reading.draft? with
  | none =>
    have hsame : (reading.closeBefore index).requests = reading.requests := by
      unfold Reading.closeBefore
      cases reading.mode <;> simp [hopen]
    rw [hsame]
    exact h.isTold_finished
  | some draft =>
    rw [closeBefore_of_draft hopen]
    intro request hmem
    rcases List.mem_append.mp hmem with hclosed | hfinished
    · have hclose := Option.mem_toList.mp hclosed
      exact (h.isTold_open draft hopen).close? (h.open_lt draft hopen) hclose
    · exact h.isTold_finished request hfinished

/-- One line more is told. -/
theorem IsTold.step (h : reading.IsTold texts index) (hstep : reading.step index text = .ok next)
    (hsaid : saidAt texts index = reading.said? text) : next.IsTold texts (index + 1) := by
  have hopen : ∀ taken, next.draft? = some taken →
      taken.request.startLine < index + 1 ∧ taken.IsTold texts (index + 1) := by
    intro taken htaken
    obtain ⟨draft, hdraft, htakes⟩ := step_hears hstep taken htaken
    rw [← hsaid] at htakes
    have htold : draft.IsTold texts index ∧ draft.request.startLine ≤ index := by
      rcases hdraft with hdraft | rfl
      · exact ⟨h.isTold_open draft hdraft, (h.open_lt draft hdraft).le⟩
      · exact ⟨Draft.isTold_start texts index, le_rfl⟩
    rcases htakes with htakes | htakes
    · exact htold.1.hear htold.2 htakes
    · exact htold.1.endBody.hear (by rw [Draft.startLine_endBody]; exact htold.2) htakes
  refine ⟨fun _ htaken => (hopen _ htaken).1, fun _ htaken => (hopen _ htaken).2, ?_⟩
  rcases step_advances hstep with ⟨_, hsame⟩ | ⟨_, hsame⟩
  · rw [hsame.requests]
    exact h.isTold_finished
  · rw [hsame.requests]
    exact h.closeBefore

/-- Where the lines before it can be read, a line says what it says there. -/
theorem saidAt_append {front : List (List Char)} (h : ({} : Reading).steps 0 front = .ok reading)
    (text : List Char) (back : List (List Char)) :
    saidAt (front ++ text :: back) front.length = reading.said? text := by
  simp [saidAt, h]

/-- What has been read of a script is told by its lines. -/
theorem isTold_of_steps {front : List (List Char)} (back : List (List Char))
    (h : ({} : Reading).steps 0 front = .ok reading) :
    reading.IsTold (front ++ back) front.length := by
  induction front using List.reverseRecOn generalizing reading back with
  | nil =>
    obtain rfl := Except.ok.inj h
    exact ⟨by simp [draft?], by simp [draft?], by simp⟩
  | append_singleton front text ih =>
    rw [steps_append, Nat.zero_add] at h
    obtain ⟨middle, hfront, hback⟩ := bind_eq_ok_iff.mp h
    obtain ⟨_, hstep, hlast⟩ := exists_step_of_steps_cons hback
    obtain rfl := Except.ok.inj hlast
    have hmiddle := ih (text :: back) hfront
    rw [List.append_assoc, List.length_append]
    exact hmiddle.step hstep (saidAt_append hfront text back)

end Reading

/-- **A request of a script is what the lines of its block tell, with its defaults.** -/
theorem exists_isTold_of_mem_requests {text : String} {document : Document}
    (h : parse text = .ok document) {request : Request} (hmem : request ∈ document.requests) :
    ∃ own, IsTold (lines text.toList) own ∧
      request = resolveConfig document.configs
        (applyDefaults document.collection document.tags own) := by
  obtain ⟨reading, hsteps, rfl⟩ := exists_reading_of_parse h
  obtain ⟨own, hown, rfl⟩ := List.mem_map.mp hmem
  have htold := Reading.isTold_of_steps [] hsteps
  rw [List.append_nil] at htold
  exact ⟨own, htold.closeBefore own (List.mem_reverse.mp hown), rfl⟩

end Document

end RequestScript
