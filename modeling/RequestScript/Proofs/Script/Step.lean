import RequestScript.Script.Document

/-!
# What a line does

A line either goes on with the request or the configuration block that is open, or it finishes what
is open and opens something else, or nothing. What holds of all finished requests and blocks
follows from what a line makes of an open one: a configuration block is what its own lines say.
-/

namespace RequestScript

open Text

/-- What a line says does not move the start of a block. -/
theorem Request.startLine_applyLine (request : Request) (said : ScriptLine) :
    (request.applyLine said).startLine = request.startLine := by
  cases said with
  | comment | method | header | other => rfl
  | directive directive =>
    cases directive with
    | none => rfl
    | some directive => cases directive <;> rfl

/-! ## Lines of a configuration block -/

namespace ConfigBlock

/-- A line that belongs to a block says nothing, or something in the open section, or something by
itself; and where it says something the block ends with it. -/
theorem Reading.cases_of_step? {current next : Reading} {index : Nat} {text : List Char}
    (h : current.step? index text = some next) :
    next = current ∨ ∃ said, next.block = { said with endLine := index } ∧
      ((∃ kind, said = current.block.applySectionLine (trim text) kind) ∨
        said = (current.block.applyScalarLine (trim text)).block) := by
  unfold step? at h
  dsimp only at h
  split at h
  · exact .inl (Option.some.inj h).symm
  split at h
  · next kind _ =>
    obtain rfl := Option.some.inj h
    exact .inr ⟨_, rfl, .inl ⟨kind, rfl⟩⟩
  split at h
  · cases h
  · obtain rfl := Option.some.inj h
    exact .inr ⟨_, rfl, .inr rfl⟩

/-- A line of a section says nothing, or it sets a header, or it adds an assertion. -/
theorem cases_applySectionLine (block : ConfigBlock) (cs : List Char) (kind : Section) :
    block.applySectionLine cs kind = block ∨
      (∃ key value, block.applySectionLine cs kind =
        { block with headers := Table.set block.headers key value }) ∨
      ∃ added, Assertion.ofChars? cs = some added ∧ block.applySectionLine cs kind =
        { block with assertions := block.assertions ++ [added] } := by
  cases kind with
  | headers =>
    simp only [applySectionLine]
    split
    · split
      · exact .inl rfl
      · exact .inr (.inl ⟨_, _, rfl⟩)
    · exact .inl rfl
  | assertions =>
    simp only [applySectionLine]
    split
    · next added hread => exact .inr (.inr ⟨added, hread, rfl⟩)
    · exact .inl rfl

theorem startLine_applySectionLine (block : ConfigBlock) (cs : List Char) (kind : Section) :
    (block.applySectionLine cs kind).startLine = block.startLine := by
  rcases cases_applySectionLine block cs kind with hsame | ⟨_, _, hset⟩ | ⟨_, _, hadd⟩
  · rw [hsame]
  · rw [hset]
  · rw [hadd]

theorem startLine_applyScalarLine (block : ConfigBlock) (cs : List Char) :
    (block.applyScalarLine cs).block.startLine = block.startLine := by
  unfold applyScalarLine
  dsimp only
  split <;> rfl

/-- A line of a configuration block does not move the start of the block, and the last line that
says something is its end. -/
theorem Reading.span_of_step? {current next : Reading} {index : Nat} {text : List Char}
    (h : current.step? index text = some next) :
    next.block.startLine = current.block.startLine ∧
      (next.block.endLine = current.block.endLine ∨ next.block.endLine = index) := by
  rcases cases_of_step? h with rfl | ⟨_, hnext, ⟨kind, rfl⟩ | rfl⟩
  · exact ⟨rfl, .inl rfl⟩
  · rw [hnext]
    exact ⟨startLine_applySectionLine _ _ kind, .inr rfl⟩
  · rw [hnext]
    exact ⟨startLine_applyScalarLine _ _, .inr rfl⟩

/-- What is read of a block from a line on, up to the first line that does not belong to it. -/
def Reading.readOn (reading : Reading) (index : Nat) : List (List Char) → Reading
  | [] => reading
  | text :: rest =>
    match reading.step? index text with
    | some next => next.readOn (index + 1) rest
    | none => reading

/-- What the lines behind a marker say about its block. -/
def told (texts : List (List Char)) (marker : Nat) : ConfigBlock :=
  (Reading.readOn { block := { startLine := marker, endLine := marker } } (marker + 1)
    (texts.drop (marker + 1))).block

/-- A block starts with a marker, and it is what its own lines say. -/
structure IsTold (texts : List (List Char)) (block : ConfigBlock) : Prop where
  marked : ∃ text, texts[block.startLine]? = some text ∧
    trim text = Document.Reading.configMarker
  eq_told : block = told texts block.startLine

/-- What every line of a block keeps is kept by all its lines. -/
theorem Reading.readOn_induction {p : ConfigBlock → Prop}
    (hline : ∀ {current next : Reading} {index : Nat} {text : List Char},
      p current.block → current.step? index text = some next → p next.block)
    {current : Reading} (h : p current.block) (index : Nat) (texts : List (List Char)) :
    p (current.readOn index texts).block := by
  induction texts generalizing current index with
  | nil => exact h
  | cons text rest ih =>
    rw [readOn]
    split
    · next hstep => exact ih (hline h hstep) (index + 1)
    · exact h

theorem startLine_told (texts : List (List Char)) (marker : Nat) :
    (told texts marker).startLine = marker :=
  Reading.readOn_induction (p := fun block => block.startLine = marker)
    (fun h hstep => (Reading.span_of_step? hstep).1.trans h) rfl _ _

theorem isTold_told {texts : List (List Char)} {marker : Nat} {text : List Char}
    (htext : texts[marker]? = some text) (hmarker : trim text = Document.Reading.configMarker) :
    (told texts marker).IsTold texts where
  marked := ⟨text, by rw [startLine_told, htext], hmarker⟩
  eq_told := by rw [startLine_told]

end ConfigBlock

namespace Document

theorem Draft.startLine_endBody (draft : Draft) :
    draft.endBody.request.startLine = draft.request.startLine := by
  unfold endBody
  dsimp only
  split <;> rfl

/-- The request of a draft is what its lines say, up to the last line, and it has a URL. -/
theorem Draft.close?_eq_some {draft : Draft} {line : Nat} {request : Request}
    (h : draft.close? line = some request) :
    request = { draft.endBody.request with endLine := line } ∧ request.url.isEmpty = false := by
  unfold close? at h
  dsimp only at h
  split at h
  · cases h
  · next hurl =>
    obtain rfl := Option.some.inj h
    exact ⟨rfl, Bool.eq_false_iff.mpr hurl⟩

/-- What a line makes of the open request that it belongs to. -/
inductive Draft.Takes (text : List Char) : Draft → Draft → Prop
  /-- The line says nothing about the request. -/
  | pass (draft : Draft) : Takes text draft draft
  /-- The request becomes what the line says. -/
  | apply {draft : Draft} {said : ScriptLine} : ScriptLine.read (trim text) = .ok said →
      Takes text draft { draft with request := draft.request.applyLine said }
  /-- The line is part of the body. -/
  | keep (draft : Draft) : Takes text draft { draft with body := text :: draft.body }
  /-- The body ends before the line. -/
  | leave {draft next : Draft} : Takes text draft.endBody next → Takes text draft next

/-- No line moves the start of a block. -/
theorem Draft.Takes.startLine_eq {text : List Char} {draft next : Draft}
    (h : draft.Takes text next) : next.request.startLine = draft.request.startLine := by
  induction h with
  | pass draft | keep draft => rfl
  | apply hread => exact Request.startLine_applyLine _ _
  | leave _ ih => rw [ih, Draft.startLine_endBody]

namespace Reading

/-- Two readings have finished the same requests and the same configuration blocks. -/
structure SameFinished (reading next : Reading) : Prop where
  /-- The requests are the same. -/
  requests : next.requests = reading.requests
  /-- The configuration blocks are the same. -/
  configs : next.configs = reading.configs

/-- What is open goes on with a line. -/
inductive Continues (index : Nat) (text : List Char) (reading next : Reading) : Prop
  /-- The line belongs to the open request. -/
  | request {draft taken : Draft} :
      reading.draft? = some draft → next.draft? = some taken → draft.Takes text taken →
      Continues index text reading next
  /-- The line belongs to the open configuration block. -/
  | config {current following : ConfigBlock.Reading} :
      reading.mode = .config current → next.mode = .config following →
      current.step? index text = some following → Continues index text reading next

/-- What is open after a line opens with it. -/
inductive Opens (index : Nat) (text : List Char) (next : Reading) : Prop
  /-- Nothing is open. -/
  | nothing : next.draft? = none → (∀ current, next.mode ≠ .config current) →
      Opens index text next
  /-- The line opens a request. -/
  | request {taken : Draft} :
      next.draft? = some taken → (Draft.start index).Takes text taken → Opens index text next
  /-- The line opens a configuration block. -/
  | config : trim text = configMarker →
      next.mode = .config { block := { startLine := index, endLine := index } } →
      Opens index text next

/-- A line goes on with what is open, or it comes after what is open has been finished. -/
def Advances (index : Nat) (text : List Char) (reading next : Reading) : Prop :=
  Continues index text reading next ∧ SameFinished reading next ∨
    Opens index text next ∧ SameFinished (reading.closeBefore index) next

variable {reading next : Reading} {index : Nat} {text : List Char}

theorem SameFinished.trans {last : Reading} (h : SameFinished reading next)
    (hlast : SameFinished next last) : SameFinished reading last :=
  ⟨hlast.requests.trans h.requests, hlast.configs.trans h.configs⟩

theorem SameFinished.symm (h : SameFinished reading next) : SameFinished next reading :=
  ⟨h.requests.symm, h.configs.symm⟩

/-- Where nothing is open nothing is finished. -/
theorem sameFinished_closeBefore (hdraft : reading.draft? = none)
    (hconfig : ∀ current, reading.mode ≠ .config current) (index : Nat) :
    SameFinished (reading.closeBefore index) reading := by
  obtain ⟨mode, requests, configs, collection, tags⟩ := reading
  cases mode with
  | config current => exact absurd rfl (hconfig current)
  | outside | head _ | body _ | doc _ => constructor <;> simp_all [closeBefore, draft?]

theorem closeBefore_of_draft {draft : Draft} (hdraft : reading.draft? = some draft)
    (index : Nat) :
    reading.closeBefore index = { reading with
      mode := .outside
      requests := (draft.close? (index - 1)).toList ++ reading.requests } := by
  cases hmode : reading.mode with
  | outside | config _ => simp [draft?, hmode] at hdraft
  | head _ | body _ | doc _ => simp [closeBefore, hmode, hdraft]

theorem closeBefore_of_config {current : ConfigBlock.Reading}
    (hconfig : reading.mode = .config current) (index : Nat) :
    reading.closeBefore index = { reading with
      mode := .outside
      configs := current.block :: reading.configs } := by
  simp [closeBefore, hconfig]

/-! ## Doc comments -/

theorem draft?_docLine (draft : Option Draft) (cs : List Char) :
    (reading.docLine draft cs).draft? = draft := by
  unfold docLine
  split <;> cases draft <;> rfl

theorem docLine_ne_config (draft : Option Draft) (cs : List Char)
    (current : ConfigBlock.Reading) : (reading.docLine draft cs).mode ≠ .config current := by
  unfold docLine
  split <;> cases draft <;> simp [headMode]

theorem sameFinished_applyDoc (cs : List Char) : SameFinished reading (reading.applyDoc cs) := by
  unfold applyDoc
  dsimp only
  repeat' split
  all_goals exact ⟨rfl, rfl⟩

theorem sameFinished_docLine (draft : Option Draft) (cs : List Char) :
    SameFinished reading (reading.docLine draft cs) := by
  unfold docLine
  split
  · next before _ => exact (sameFinished_applyDoc before).trans ⟨rfl, rfl⟩
  · exact (sameFinished_applyDoc cs).trans ⟨rfl, rfl⟩

/-- A line of a doc comment leaves open what is open. -/
theorem docLine_advances (hconfig : ∀ current, reading.mode ≠ .config current) (cs : List Char) :
    Advances index text reading (reading.docLine reading.draft? cs) := by
  have hsame : SameFinished reading (reading.docLine reading.draft? cs) :=
    sameFinished_docLine _ cs
  cases hopen : reading.draft? with
  | none =>
    rw [hopen] at hsame
    have hclose := sameFinished_closeBefore hopen hconfig index
    exact .inr ⟨.nothing (draft?_docLine none cs) (docLine_ne_config none cs), hclose.trans hsame⟩
  | some draft =>
    rw [hopen] at hsame
    exact .inl ⟨.request hopen (draft?_docLine (some draft) cs) (.pass draft), hsame⟩

/-! ## Lines that are no marks -/

/-- Whether the body of a request is being read. -/
def isInBody (reading : Reading) : Bool :=
  match reading.mode with
  | .body _ => true
  | _ => false

/-- The reading after a line that is no mark, where no doc comment is open. -/
def unmarkedLine (reading : Reading) (index : Nat) (text : List Char) : Except Fault Reading :=
  match reading.mode with
  | .head draft => reading.headLine draft (trim text)
  | .body draft =>
    if ['@'].isPrefixOf (trim text) then reading.headLine draft.endBody (trim text)
    else .ok { reading with mode := .body { draft with body := text :: draft.body } }
  | _ =>
    if (trim text).isEmpty then .ok reading else reading.headLine (.start index) (trim text)

/-- In a doc comment every line is one of the comment. -/
theorem line_of_doc {draft : Option Draft} (hmode : reading.mode = .doc draft) (index : Nat)
    (text : List Char) : reading.line index text = .ok (reading.docLine draft (trim text)) := by
  rw [line, hmode]

/-- Outside doc comments the marks are looked for in one order, whatever is open. -/
theorem line_eq (hdoc : ∀ draft, reading.mode ≠ .doc draft) (index : Nat) (text : List Char) :
    reading.line index text =
      if trim text = configMarker then
        .ok { reading.closeBefore index with
          mode := .config { block := { startLine := index, endLine := index } } }
      else if !reading.isInBody && docStart.isPrefixOf (trim text) then
        .ok (reading.docLine reading.draft? ((trim text).drop docStart.length))
      else if isSeparator (trim text) then
        .ok { reading.closeBefore index with mode := .head (.start index) }
      else reading.unmarkedLine index text := by
  unfold line unmarkedLine isInBody
  cases hmode : reading.mode with
  | doc draft => exact absurd hmode (hdoc draft)
  | outside | head _ | body _ | config _ => rfl

/-- A line in the head of a request is taken into the request, and nothing else changes. -/
theorem headLine_takes {draft : Draft} (h : reading.headLine draft (trim text) = .ok next) :
    ∃ taken, draft.Takes text taken ∧
      (next = { reading with mode := .head taken } ∨
        next = { reading with mode := .body taken }) := by
  unfold headLine at h
  split at h
  · obtain rfl := Except.ok.inj h
    refine ⟨draft, .pass draft, ?_⟩
    cases draft.request.url.isEmpty with
    | true => exact .inl rfl
    | false => exact .inr rfl
  · obtain ⟨said, hread, hnext⟩ := bind_eq_ok_iff.mp h
    obtain rfl := Except.ok.inj hnext
    exact ⟨_, .apply hread, .inl rfl⟩

/-- After a line in its head the request is open, and what has been finished is the same. -/
theorem headLine_opens {draft : Draft} (h : reading.headLine draft (trim text) = .ok next) :
    ∃ taken, next.draft? = some taken ∧ draft.Takes text taken ∧ SameFinished reading next := by
  obtain ⟨taken, htakes, rfl | rfl⟩ := headLine_takes h
  · exact ⟨taken, rfl, htakes, ⟨rfl, rfl⟩⟩
  · exact ⟨taken, rfl, htakes, ⟨rfl, rfl⟩⟩

theorem unmarkedLine_advances (hconfig : ∀ current, reading.mode ≠ .config current)
    (hdoc : ∀ draft, reading.mode ≠ .doc draft)
    (h : reading.unmarkedLine index text = .ok next) : Advances index text reading next := by
  unfold unmarkedLine at h
  cases hmode : reading.mode with
  | doc draft => exact absurd hmode (hdoc draft)
  | config current => exact absurd hmode (hconfig current)
  | outside =>
    have hopen : reading.draft? = none := by rw [draft?, hmode]
    have hclose := sameFinished_closeBefore hopen hconfig index
    simp only [hmode] at h
    split at h
    · obtain rfl := Except.ok.inj h
      exact .inr ⟨.nothing hopen hconfig, hclose⟩
    · obtain ⟨taken, htaken, htakes, hsame⟩ := headLine_opens h
      exact .inr ⟨.request htaken htakes, hclose.trans hsame⟩
  | head draft =>
    have hopen : reading.draft? = some draft := by rw [draft?, hmode]
    simp only [hmode] at h
    obtain ⟨taken, htaken, htakes, hsame⟩ := headLine_opens h
    exact .inl ⟨.request hopen htaken htakes, hsame⟩
  | body draft =>
    have hopen : reading.draft? = some draft := by rw [draft?, hmode]
    simp only [hmode] at h
    split at h
    · obtain ⟨taken, htaken, htakes, hsame⟩ := headLine_opens h
      exact .inl ⟨.request hopen htaken (.leave htakes), hsame⟩
    · obtain rfl := Except.ok.inj h
      exact .inl ⟨.request hopen rfl (.keep draft), ⟨rfl, rfl⟩⟩

/-! ## Every line -/

section Config

variable {current : ConfigBlock.Reading}

/-- A line that belongs to the open configuration block goes on with it. -/
theorem step_of_step?_eq_some {following : ConfigBlock.Reading}
    (hmode : reading.mode = .config current)
    (hnext : current.step? index text = some following) :
    reading.step index text = .ok { reading with mode := .config following } := by
  rw [step, hmode]
  simp only [hnext]

/-- A line that does not belong to the open configuration block ends it, and is read outside it. -/
theorem step_of_step?_eq_none (hmode : reading.mode = .config current)
    (hnone : current.step? index text = none) :
    reading.step index text = (reading.closeBefore index).line index text := by
  rw [step, hmode]
  simp only [hnone]

end Config

theorem line_advances (hconfig : ∀ current, reading.mode ≠ .config current)
    (h : reading.line index text = .ok next) : Advances index text reading next := by
  by_cases hdoc : ∃ draft, reading.mode = .doc draft
  · obtain ⟨draft, hmode⟩ := hdoc
    have hopen : reading.draft? = draft := by rw [draft?, hmode]
    obtain rfl := Except.ok.inj ((line_of_doc hmode index text).symm.trans h)
    exact hopen ▸ docLine_advances hconfig _
  rw [not_exists] at hdoc
  rw [line_eq hdoc] at h
  split at h
  · next hmarker =>
    obtain rfl := Except.ok.inj h
    exact .inr ⟨.config hmarker rfl, ⟨rfl, rfl⟩⟩
  split at h
  · obtain rfl := Except.ok.inj h
    exact docLine_advances hconfig _
  split at h
  · obtain rfl := Except.ok.inj h
    exact .inr ⟨.request rfl (.pass _), ⟨rfl, rfl⟩⟩
  · exact unmarkedLine_advances hconfig hdoc h

/-- **What a line does**: it goes on with what is open, or it comes after what is open has been
finished. -/
theorem step_advances (h : reading.step index text = .ok next) :
    Advances index text reading next := by
  unfold step at h
  cases hmode : reading.mode with
  | outside | head _ | body _ | doc _ =>
    simp only [hmode] at h
    exact line_advances (by simp [hmode]) h
  | config current =>
    simp only [hmode] at h
    split at h
    · next following hstep =>
      obtain rfl := Except.ok.inj h
      exact .inl ⟨.config hmode rfl hstep, ⟨rfl, rfl⟩⟩
    · -- The line is read again where the block has been finished and nothing is open.
      have hclosed : (reading.closeBefore index).mode = .outside := by
        rw [closeBefore_of_config hmode]
      have hopen : (reading.closeBefore index).draft? = none := by rw [draft?, hclosed]
      have hconfig : ∀ current, (reading.closeBefore index).mode ≠ .config current := by
        simp [hclosed]
      rcases line_advances hconfig h with ⟨hgoes, _⟩ | ⟨hopens, hsame⟩
      · cases hgoes with
        | request hdraft => simp [hopen] at hdraft
        | config hcurrent => exact absurd hcurrent (hconfig _)
      · have hclose := sameFinished_closeBefore hopen hconfig index
        exact .inr ⟨hopens, hclose.symm.trans hsame⟩

/-- Lines that can be read are read one after the other. -/
theorem exists_step_of_steps_cons {rest : List (List Char)}
    (h : reading.steps index (text :: rest) = .ok next) :
    ∃ middle, reading.step index text = .ok middle ∧
      middle.steps (index + 1) rest = .ok next :=
  bind_eq_ok_iff.mp h

/-- What every line keeps is kept by several lines. -/
theorem steps_induction {holds : Nat → Reading → Prop} {texts : List (List Char)}
    (hstep : ∀ text ∈ texts, ∀ {index reading next}, holds index reading →
      reading.step index text = .ok next → holds (index + 1) next)
    (hreading : holds index reading) (h : reading.steps index texts = .ok next) :
    holds (index + texts.length) next := by
  induction texts generalizing reading index with
  | nil =>
    obtain rfl := Except.ok.inj h
    exact hreading
  | cons text rest ih =>
    obtain ⟨middle, hfirst, hrest⟩ := exists_step_of_steps_cons h
    have hmiddle := hstep text List.mem_cons_self hreading hfirst
    rw [List.length_cons, Nat.add_comm rest.length, ← Nat.add_assoc]
    exact ih (fun other hmem => hstep other (List.mem_cons_of_mem text hmem)) hmiddle hrest

/-! ## Configuration blocks -/

/-- Where no block is open none is finished. -/
theorem configs_closeBefore_of_ne (hconfig : ∀ current, reading.mode ≠ .config current)
    (index : Nat) : (reading.closeBefore index).configs = reading.configs := by
  unfold closeBefore
  split
  · next current hmode => exact absurd hmode (hconfig current)
  · split <;> rfl

/-- The finished configuration blocks are what their own lines say, and so is the open one once the
lines from here on have been read. -/
structure TellsBlocks (texts : List (List Char)) (index : Nat) (reading : Reading) : Prop where
  finished : ∀ block ∈ reading.configs, block.IsTold texts
  is_open : ∀ current, reading.mode = .config current →
    (current.readOn index (texts.drop index)).block.IsTold texts

/-- A line that does not go on with the open configuration block does not belong to it. -/
theorem step?_eq_none_of_closeBefore {current : ConfigBlock.Reading}
    (hmode : reading.mode = .config current) (hstep : reading.step index text = .ok next)
    (hsame : SameFinished (reading.closeBefore index) next) : current.step? index text = none := by
  cases hbelongs : current.step? index text with
  | none => rfl
  | some following =>
    obtain rfl := Except.ok.inj ((step_of_step?_eq_some hmode hbelongs).symm.trans hstep)
    have hconfigs := hsame.configs
    rw [closeBefore_of_config hmode] at hconfigs
    exact absurd hconfigs.symm (List.cons_ne_self _ _)

namespace TellsBlocks

variable {texts : List (List Char)}

theorem configs_closeBefore (h : reading.TellsBlocks texts index)
    (hend : ∀ current, reading.mode = .config current →
      current.readOn index (texts.drop index) = current) :
    ∀ block ∈ (reading.closeBefore index).configs, block.IsTold texts := by
  cases hmode : reading.mode with
  | config current =>
    rw [closeBefore_of_config hmode]
    have hopen := h.is_open current hmode
    rw [hend current hmode] at hopen
    exact List.forall_mem_cons.mpr ⟨hopen, h.finished⟩
  | outside | head _ | body _ | doc _ =>
    rw [configs_closeBefore_of_ne (by simp [hmode])]
    exact h.finished

theorem step {rest : List (List Char)} (h : reading.TellsBlocks texts index)
    (hrest : texts.drop index = text :: rest) (hstep : reading.step index text = .ok next) :
    next.TellsBlocks texts (index + 1) := by
  have hnext : texts.drop (index + 1) = rest := by
    rw [← List.tail_drop, hrest, List.tail_cons]
  rcases step_advances hstep with ⟨hgoes, hsame⟩ | ⟨hopens, hsame⟩
  · refine ⟨hsame.configs ▸ h.finished, fun following hfollowing => ?_⟩
    cases hgoes with
    | request _ htaken => simp [draft?, hfollowing] at htaken
    | config hmode hnextMode hbelongs =>
      obtain rfl := Mode.config.inj (hnextMode.symm.trans hfollowing)
      have hopen := h.is_open _ hmode
      rw [hrest, ConfigBlock.Reading.readOn, hbelongs] at hopen
      rw [hnext]
      exact hopen
  · have hclosed := h.configs_closeBefore fun current hmode => by
      rw [hrest, ConfigBlock.Reading.readOn, step?_eq_none_of_closeBefore hmode hstep hsame]
    refine ⟨hsame.configs ▸ hclosed, fun current hcurrent => ?_⟩
    cases hopens with
    | nothing _ hconfig => exact absurd hcurrent (hconfig current)
    | request htaken => simp [draft?, hcurrent] at htaken
    | config hmarker hmode =>
      obtain rfl := Mode.config.inj (hmode.symm.trans hcurrent)
      have htext : texts[index]? = some text := by
        rw [← List.head?_drop, hrest, List.head?_cons]
      exact ConfigBlock.isTold_told htext hmarker

theorem steps {rest : List (List Char)} (h : reading.TellsBlocks texts index)
    (hrest : texts.drop index = rest) (hsteps : reading.steps index rest = .ok next) :
    next.TellsBlocks texts (index + rest.length) := by
  induction rest generalizing reading index with
  | nil =>
    obtain rfl := Except.ok.inj hsteps
    exact h
  | cons text rest ih =>
    obtain ⟨middle, hfirst, hmore⟩ := exists_step_of_steps_cons hsteps
    have hdrop : texts.drop (index + 1) = rest := by
      rw [← List.tail_drop, hrest, List.tail_cons]
    rw [List.length_cons, Nat.add_comm rest.length, ← Nat.add_assoc]
    exact ih (h.step hrest hfirst) hdrop hmore

end TellsBlocks

end Reading

/-! ## The whole script -/

/-- A script says what has been read after its last line. -/
theorem parse_eq (text : String) :
    parse text = (({} : Reading).steps 0 (lines text.toList)).map fun reading =>
      ofReading reading (lines text.toList).length := by
  unfold parse
  dsimp only
  cases ({} : Reading).steps 0 (lines text.toList) <;> rfl

theorem exists_reading_of_parse {text : String} {document : Document}
    (h : parse text = .ok document) :
    ∃ reading, ({} : Reading).steps 0 (lines text.toList) = .ok reading ∧
      document = ofReading reading (lines text.toList).length := by
  rw [parse_eq] at h
  cases hsteps : ({} : Reading).steps 0 (lines text.toList) with
  | error fault => simp [hsteps, Except.map] at h
  | ok reading =>
    rw [hsteps] at h
    exact ⟨reading, rfl, (Except.ok.inj h).symm⟩

/-- **A configuration block of a script is what its own lines say.** -/
theorem isTold_of_mem_configs {text : String} {document : Document}
    (h : parse text = .ok document) :
    ∀ block ∈ document.configs, block.IsTold (lines text.toList) := by
  obtain ⟨reading, hsteps, rfl⟩ := exists_reading_of_parse h
  have hnone : ({} : Reading).TellsBlocks (lines text.toList) 0 := ⟨nofun, nofun⟩
  have htells := hnone.steps (List.drop_zero ..) hsteps
  rw [Nat.zero_add] at htells
  have hclosed := htells.configs_closeBefore fun current _ => by
    rw [List.drop_length, ConfigBlock.Reading.readOn]
  exact fun block hmem => hclosed block (List.mem_reverse.mp hmem)

/-- What a new configuration block has, and keeps with each line that belongs to it, every block of
the script has. -/
theorem forall_configs_of_parse {p : ConfigBlock → Prop}
    (hnew : ∀ index, p { startLine := index, endLine := index })
    (hline : ∀ {current next : ConfigBlock.Reading} {index : Nat} {text : List Char},
      p current.block → current.step? index text = some next → p next.block)
    {text : String} {document : Document} (h : parse text = .ok document) :
    ∀ block ∈ document.configs, p block := by
  intro block hmem
  rw [(isTold_of_mem_configs h block hmem).eq_told]
  exact ConfigBlock.Reading.readOn_induction hline (hnew _) _ _

end Document

end RequestScript
