import RequestScript.Proofs.Script.Step

/-!
# Scripts without the numbers of their lines

What a script says does not depend on where its lines stand: two readings that differ in the numbers
of lines alone go on alike with every line. Nor does it matter whether no request is open, or one
that says nothing yet: such a request is dropped unless it is given a URL, and any line outside a
request opens one.
-/

namespace RequestScript

open Text

/-- Computations that agree as far as a view shows go on to agree, if what comes after them depends
on nothing but the view. -/
theorem map_bind_congr {ε α β γ δ : Type} {x y : Except ε α} {view : α → β} {f g : α → Except ε γ}
    {result : γ → δ} (h : x.map view = y.map view)
    (hnext : ∀ a b, view a = view b → (f a).map result = (g b).map result) :
    (x >>= f).map result = (y >>= g).map result := by
  cases x with
  | error fault =>
    cases y with
    | error other => exact congrArg Except.error (Except.error.inj h)
    | ok b => cases h
  | ok a =>
    cases y with
    | error other => cases h
    | ok b => exact hnext a b (Except.ok.inj h)

/-! ## Configuration blocks and requests -/

namespace ConfigBlock

/-- A block that does not tell where it stands. -/
def unnumbered (block : ConfigBlock) : ConfigBlock :=
  { block with startLine := 0, endLine := 0 }

@[simp]
theorem unnumbered_unnumbered (block : ConfigBlock) :
    block.unnumbered.unnumbered = block.unnumbered := rfl

theorem unnumbered_applySectionLine (block : ConfigBlock) (cs : List Char) (kind : Section) :
    (block.applySectionLine cs kind).unnumbered = block.unnumbered.applySectionLine cs kind := by
  cases kind <;> unfold applySectionLine <;> dsimp only
  · split
    · split <;> rfl
    · rfl
  · split <;> rfl

namespace Reading

/-- A block that is being read and does not tell where it stands. -/
def unnumbered (reading : Reading) : Reading :=
  { reading with block := reading.block.unnumbered }

theorem unnumbered_applyScalarLine (block : ConfigBlock) (cs : List Char) :
    (block.applyScalarLine cs).unnumbered = block.unnumbered.applyScalarLine cs := by
  unfold applyScalarLine
  dsimp only
  generalize (cut? ':' cs).getD (cs, []) = parts
  generalize String.ofList (trim parts.1) = key
  split
  all_goals simp_all [unnumbered, ConfigBlock.unnumbered]

/-- A line does the same wherever it stands. -/
theorem unnumbered_step? (reading : Reading) (index line : Nat) (text : List Char) :
    (reading.step? index text).map unnumbered =
      (reading.unnumbered.step? line text).map unnumbered := by
  unfold step?
  dsimp only [unnumbered]
  split
  · rfl
  split
  · rw [← unnumbered_applySectionLine]
    rfl
  split
  · rfl
  · rw [← unnumbered_applyScalarLine]
    generalize reading.block.applyScalarLine (trim text) = next
    rfl

end Reading

end ConfigBlock

namespace Request

/-- A request that does not tell where it stands, nor where its configuration block does. -/
def unnumbered (request : Request) : Request :=
  { request with
    startLine := 0
    endLine := 0
    config := request.config.map ConfigBlock.unnumbered }

@[simp]
theorem unnumbered_unnumbered (request : Request) :
    request.unnumbered.unnumbered = request.unnumbered := by
  simp [unnumbered, Function.comp_def]

theorem unnumbered_applyLine (request : Request) (said : ScriptLine) :
    (request.applyLine said).unnumbered = request.unnumbered.applyLine said := by
  cases said with
  | comment | method | header | other => rfl
  | directive content =>
    cases content with
    | none => rfl
    | some content => cases content <;> rfl

end Request

namespace Document

/-- What a script says, without the numbers of its lines. -/
def unnumbered (document : Document) : Document :=
  { document with
    requests := document.requests.map Request.unnumbered
    configs := document.configs.map ConfigBlock.unnumbered }

/-! ## Open requests -/

namespace Draft

/-- A draft that does not tell where it stands. -/
def unnumbered (draft : Draft) : Draft :=
  { draft with request := draft.request.unnumbered }

@[simp]
theorem unnumbered_unnumbered (draft : Draft) : draft.unnumbered.unnumbered = draft.unnumbered := by
  simp [unnumbered]

theorem unnumbered_endBody (draft : Draft) :
    draft.endBody.unnumbered = draft.unnumbered.endBody := by
  unfold endBody
  dsimp only [unnumbered]
  split <;> rfl

theorem unnumbered_close? (draft : Draft) (index line : Nat) :
    (draft.close? index).map Request.unnumbered =
      (draft.unnumbered.close? line).map Request.unnumbered := by
  unfold close?
  rw [← unnumbered_endBody]
  dsimp only [unnumbered, Request.unnumbered]
  split
  · rfl
  · simp [Request.unnumbered, Function.comp_def]

/-- The open request without the numbers of its lines, or else one that says nothing yet. -/
def orNew (draft : Option Draft) : Draft :=
  draft.elim (start 0) unnumbered

@[simp]
theorem orNew_some_orNew (draft : Option Draft) : orNew (some (orNew draft)) = orNew draft := by
  cases draft with
  | none => rfl
  | some draft => exact unnumbered_unnumbered draft

end Draft

/-- Where a reading stands, without the numbers of lines. Where no request is open this is a new
request. -/
def Mode.unnumbered : Mode → Mode
  | .outside => .head (Draft.orNew none)
  | .head draft => .head (Draft.orNew (some draft))
  | .body draft => .body draft.unnumbered
  | .doc draft => .doc (some (Draft.orNew draft))
  | .config reading => .config reading.unnumbered

@[simp]
theorem Mode.unnumbered_unnumbered (mode : Mode) :
    mode.unnumbered.unnumbered = mode.unnumbered := by
  cases mode with
  | outside | config _ => rfl
  | head _ | body _ | doc _ => simp [unnumbered]

namespace Reading

variable {reading other : Reading}

/-- What has been read, without the numbers of lines. -/
def unnumbered (reading : Reading) : Reading :=
  { reading with
    mode := reading.mode.unnumbered
    requests := reading.requests.map Request.unnumbered
    configs := reading.configs.map ConfigBlock.unnumbered }

@[simp]
theorem unnumbered_unnumbered (reading : Reading) :
    reading.unnumbered.unnumbered = reading.unnumbered := by
  simp [unnumbered, Function.comp_def]

/-- Readings that differ in the numbers of lines alone do so wherever they come to stand. -/
theorem with_mode_congr (h : reading.unnumbered = other.unnumbered) {mode otherMode : Mode}
    (hmode : mode.unnumbered = otherMode.unnumbered) :
    ({ reading with mode } : Reading).unnumbered =
      ({ other with mode := otherMode } : Reading).unnumbered := by
  change ({ reading.unnumbered with mode := mode.unnumbered } : Reading) = _
  rw [h, hmode]
  rfl

/-- Whatever is open ends alike before a line, wherever the line stands. -/
theorem unnumbered_closeBefore (reading : Reading) (index line : Nat) :
    (reading.closeBefore index).unnumbered = (reading.unnumbered.closeBefore line).unnumbered := by
  obtain ⟨mode, requests, configs, collection, tags⟩ := reading
  have hclose (draft : Draft) : (draft.close? (index - 1)).toList.map Request.unnumbered =
      (draft.unnumbered.close? (line - 1)).toList.map Request.unnumbered := by
    rw [← Option.toList_map, ← Option.toList_map, Draft.unnumbered_close? draft _ (line - 1)]
  have hnew : (Draft.start 0).close? (line - 1) = none := rfl
  cases mode with
  | outside =>
    simp [closeBefore, unnumbered, draft?, Mode.unnumbered, Draft.orNew, hnew, Function.comp_def]
  | config current =>
    simp [closeBefore, unnumbered, Mode.unnumbered, ConfigBlock.Reading.unnumbered,
      Function.comp_def]
  | head draft | body draft =>
    simp [closeBefore, unnumbered, draft?, Mode.unnumbered, Draft.orNew, hclose, Function.comp_def]
  | doc draft =>
    cases draft with
    | none =>
      simp [closeBefore, unnumbered, draft?, Mode.unnumbered, Draft.orNew, hnew, Function.comp_def]
    | some draft =>
      simp [closeBefore, unnumbered, draft?, Mode.unnumbered, Draft.orNew, hclose,
        Function.comp_def]

/-! ## Lines -/

theorem unnumbered_applyDoc (reading : Reading) (cs : List Char) :
    (reading.applyDoc cs).unnumbered = reading.unnumbered.applyDoc cs := by
  unfold applyDoc
  dsimp only
  repeat' split
  all_goals rfl

theorem unnumbered_docLine (reading : Reading) (draft : Option Draft) (cs : List Char) :
    (reading.docLine draft cs).unnumbered =
      (reading.unnumbered.docLine (some (Draft.orNew draft)) cs).unnumbered := by
  have hhead : (headMode draft).unnumbered = .head (Draft.orNew draft) := by cases draft <;> rfl
  have hdoc (cs : List Char) (mode : Mode) :
      ({ reading.applyDoc cs with mode } : Reading).unnumbered =
        ({ reading.unnumbered.applyDoc cs with mode := mode.unnumbered } : Reading).unnumbered := by
    refine with_mode_congr ?_ mode.unnumbered_unnumbered.symm
    rw [← unnumbered_applyDoc, unnumbered_unnumbered]
  unfold docLine
  split
  · rw [hdoc, hhead]
    rfl
  · rw [hdoc]
    rfl

/-- A line in the head of a request does the same wherever the request starts. -/
theorem unnumbered_headLine (reading : Reading) (draft : Draft) (cs : List Char) :
    (reading.headLine draft cs).map unnumbered =
      (reading.unnumbered.headLine draft.unnumbered cs).map unnumbered := by
  have hmode (mode : Mode) : ({ reading with mode } : Reading).unnumbered =
      ({ reading.unnumbered with mode := mode.unnumbered } : Reading).unnumbered :=
    with_mode_congr reading.unnumbered_unnumbered.symm mode.unnumbered_unnumbered.symm
  unfold headLine
  split
  · dsimp only [Except.map]
    rw [hmode]
    change _ = Except.ok ({ reading.unnumbered with
      mode := if draft.request.url.isEmpty then _ else _ } : Reading).unnumbered
    cases draft.request.url.isEmpty <;> rfl
  · cases ScriptLine.read cs with
    | error fault => rfl
    | ok said =>
      simp only [bind, Except.bind, pure, Except.pure, Except.map]
      rw [hmode, Mode.unnumbered, Draft.orNew, Option.elim_some]
      simp only [Draft.unnumbered, Request.unnumbered_applyLine]

/-- A new request starts alike wherever it starts. -/
theorem unnumbered_headLine_start (reading : Reading) (index line : Nat) (cs : List Char) :
    (reading.headLine (.start index) cs).map unnumbered =
      (reading.unnumbered.headLine (.start line) cs).map unnumbered := by
  have hother := unnumbered_headLine reading.unnumbered (.start line) cs
  rw [unnumbered_unnumbered] at hother
  exact (unnumbered_headLine reading (.start index) cs).trans hother.symm

/-- A line that is no mark does the same wherever it stands. -/
theorem unnumbered_unmarkedLine (reading : Reading) (index line : Nat) (text : List Char) :
    (reading.unmarkedLine index text).map unnumbered =
      (reading.unnumbered.unmarkedLine line text).map unnumbered := by
  have hsame : (Except.ok reading : Except Fault Reading).map unnumbered =
      (Except.ok reading.unnumbered).map unnumbered :=
    congrArg Except.ok reading.unnumbered_unnumbered.symm
  have hother : reading.unnumbered.mode = reading.mode.unnumbered := rfl
  cases hmode : reading.mode with
  | outside =>
    rw [hmode] at hother
    simp only [unmarkedLine, hmode, hother, Mode.unnumbered]
    split
    · next hempty =>
      -- A blank line outside is one in the head of a request without a URL.
      rw [hsame, headLine, if_pos hempty]
      exact congrArg (fun mode => Except.ok ({ reading.unnumbered with mode } : Reading).unnumbered)
        hother
    · exact unnumbered_headLine_start reading index 0 (trim text)
  | head draft =>
    rw [hmode] at hother
    simp only [unmarkedLine, hmode, hother, Mode.unnumbered]
    exact unnumbered_headLine reading draft (trim text)
  | body draft =>
    rw [hmode] at hother
    simp only [unmarkedLine, hmode, hother, Mode.unnumbered]
    split
    · rw [unnumbered_headLine, Draft.unnumbered_endBody]
    · simp [Except.map, unnumbered, Mode.unnumbered, Draft.unnumbered, Function.comp_def]
  | doc draft | config current =>
    rw [hmode] at hother
    simp only [unmarkedLine, hmode, hother, Mode.unnumbered]
    split
    · exact hsame
    · exact unnumbered_headLine_start reading index line (trim text)

theorem isInBody_unnumbered (reading : Reading) :
    reading.unnumbered.isInBody = reading.isInBody := by
  obtain ⟨mode, requests, configs, collection, tags⟩ := reading
  cases mode <;> rfl

theorem orNew_draft?_unnumbered (reading : Reading) :
    Draft.orNew reading.unnumbered.draft? = Draft.orNew reading.draft? := by
  obtain ⟨mode, requests, configs, collection, tags⟩ := reading
  cases mode with
  | outside | config _ => rfl
  | head draft | body draft => exact Draft.unnumbered_unnumbered draft
  | doc draft => exact Draft.orNew_some_orNew draft

/-- A line in no configuration block does the same wherever it stands. -/
theorem unnumbered_line (reading : Reading) (index line : Nat) (text : List Char) :
    (reading.line index text).map unnumbered =
      (reading.unnumbered.line line text).map unnumbered := by
  by_cases hdoc : ∃ draft, reading.mode = .doc draft
  · obtain ⟨draft, hmode⟩ := hdoc
    have hother : reading.unnumbered.mode = .doc (some (Draft.orNew draft)) := by
      rw [unnumbered, hmode]
      rfl
    rw [line_of_doc hmode, line_of_doc hother]
    exact congrArg Except.ok (unnumbered_docLine reading draft (trim text))
  rw [not_exists] at hdoc
  have hother : ∀ draft, reading.unnumbered.mode ≠ .doc draft := by
    intro draft
    rw [unnumbered]
    cases hmode : reading.mode with
    | doc other => exact absurd hmode (hdoc other)
    | outside | head _ | body _ | config _ => simp [Mode.unnumbered]
  rw [line_eq hdoc, line_eq hother, isInBody_unnumbered]
  split
  · exact congrArg Except.ok (with_mode_congr (unnumbered_closeBefore reading index line) rfl)
  split
  · have hdraft := unnumbered_docLine reading.unnumbered reading.unnumbered.draft?
      ((trim text).drop docStart.length)
    rw [unnumbered_unnumbered, orNew_draft?_unnumbered] at hdraft
    exact congrArg Except.ok ((unnumbered_docLine reading _ _).trans hdraft.symm)
  split
  · exact congrArg Except.ok (with_mode_congr (unnumbered_closeBefore reading index line) rfl)
  · exact unnumbered_unmarkedLine reading index line text

/-! ## Steps -/

/-- **A line does the same wherever it stands.** -/
theorem unnumbered_step (reading : Reading) (index line : Nat) (text : List Char) :
    (reading.step index text).map unnumbered =
      (reading.unnumbered.step line text).map unnumbered := by
  have hother : reading.unnumbered.mode = reading.mode.unnumbered := rfl
  cases hmode : reading.mode with
  | outside | head draft | body draft | doc draft =>
    rw [hmode] at hother
    simp only [step, hmode, hother, Mode.unnumbered]
    exact unnumbered_line reading index line text
  | config current =>
    rw [hmode] at hother
    have hbelongs := ConfigBlock.Reading.unnumbered_step? current index line text
    cases hnext : current.step? index text with
    | none =>
      rw [hnext, Option.map_none, eq_comm, Option.map_eq_none_iff] at hbelongs
      -- The block has ended, so the line is read outside it.
      rw [step_of_step?_eq_none hmode hnext, step_of_step?_eq_none hother hbelongs,
        unnumbered_line _ index line, unnumbered_closeBefore reading index line]
      exact (unnumbered_line (reading.unnumbered.closeBefore line) line line text).symm
    | some next =>
      rw [hnext, Option.map_some, eq_comm, Option.map_eq_some_iff] at hbelongs
      obtain ⟨following, hfollowing, hsame⟩ := hbelongs
      rw [step_of_step?_eq_some hmode hnext, step_of_step?_eq_some hother hfollowing]
      exact congrArg Except.ok (with_mode_congr reading.unnumbered_unnumbered.symm
        (congrArg Mode.config hsame.symm))

/-- Readings that differ in the numbers of lines alone go on alike with a line. -/
theorem step_congr (h : reading.unnumbered = other.unnumbered) (index line : Nat)
    (text : List Char) :
    (reading.step index text).map unnumbered = (other.step line text).map unnumbered := by
  rw [unnumbered_step reading index line, h]
  exact (unnumbered_step other line line text).symm

/-- Readings that differ in the numbers of lines alone go on alike with more lines. -/
theorem steps_congr (h : reading.unnumbered = other.unnumbered) (index line : Nat)
    (texts : List (List Char)) :
    (reading.steps index texts).map unnumbered = (other.steps line texts).map unnumbered := by
  induction texts generalizing reading other index line with
  | nil => exact congrArg Except.ok h
  | cons text rest ih =>
    exact map_bind_congr (step_congr h index line text) fun _ _ hnext => ih hnext _ _

/-! ## The end of a script -/

/-- What has been read once whatever is open has ended, without the numbers of lines. -/
def finished (reading : Reading) : Reading :=
  (reading.closeBefore 0).unnumbered

/-- What is open ends alike on every line. -/
theorem unnumbered_closeBefore_eq (reading : Reading) (index : Nat) :
    (reading.closeBefore index).unnumbered = reading.finished :=
  (unnumbered_closeBefore reading index 0).trans (unnumbered_closeBefore reading 0 0).symm

theorem finished_congr (h : reading.unnumbered = other.unnumbered) :
    reading.finished = other.finished := by
  rw [finished, finished, unnumbered_closeBefore reading 0 0, h]
  exact (unnumbered_closeBefore other 0 0).symm

/-- Readings that differ in the numbers of lines alone end alike after the same lines. -/
theorem finished_steps_congr (h : reading.unnumbered = other.unnumbered) (index line : Nat)
    (texts : List (List Char)) :
    (reading.steps index texts).map finished = (other.steps line texts).map finished := by
  have hends := map_bind_congr (f := pure) (g := pure) (steps_congr h index line texts)
    fun _ _ hnext => congrArg Except.ok (finished_congr hnext)
  simpa only [bind_pure] using hends

end Reading

/-! ## Whole scripts -/

theorem configFor?_map_unnumbered (configs : List ConfigBlock) (request : Request) :
    configFor? (configs.map ConfigBlock.unnumbered) request.unnumbered =
      (configFor? configs request).map ConfigBlock.unnumbered := by
  have hfind (p : Option String → Bool) :
      (configs.map ConfigBlock.unnumbered).find? (fun block => p block.collection) =
        (configs.find? fun block => p block.collection).map ConfigBlock.unnumbered :=
    List.find?_map ..
  have hown : request.unnumbered.collection = request.collection := rfl
  simp only [configFor?, hown, hfind (·.isNone)]
  cases request.collection with
  | none => rfl
  | some name =>
    simp only [Option.bind_some, hfind (· == some name)]
    cases configs.find? fun block => block.collection == some name <;> rfl

theorem unnumbered_resolveConfig (configs : List ConfigBlock) (request : Request) :
    (resolveConfig configs request).unnumbered =
      (resolveConfig (configs.map ConfigBlock.unnumbered) request.unnumbered).unnumbered := by
  unfold resolveConfig
  rw [configFor?_map_unnumbered]
  cases configFor? configs request with
  | none => exact request.unnumbered_unnumbered.symm
  | some block => rfl

/-- What a script says when all that it says has been finished, without the numbers of lines. -/
def Reading.toDocument (finished : Reading) : Document where
  requests := finished.requests.reverse.map fun request =>
    (resolveConfig finished.configs.reverse
      (applyDefaults finished.collection finished.tags request)).unnumbered
  configs := finished.configs.reverse
  collection := finished.collection
  tags := finished.tags

theorem unnumbered_ofReading (reading : Reading) (lineCount : Nat) :
    (ofReading reading lineCount).unnumbered = reading.finished.toDocument := by
  rw [← reading.unnumbered_closeBefore_eq lineCount]
  unfold ofReading Reading.toDocument
  dsimp only [unnumbered, Reading.unnumbered]
  rw [← List.map_reverse, ← List.map_reverse, List.map_map, List.map_map]
  have hresolved (request : Request) :=
    unnumbered_resolveConfig (reading.closeBefore lineCount).configs.reverse
      (applyDefaults (reading.closeBefore lineCount).collection (reading.closeBefore lineCount).tags
        request)
  simp only [Function.comp_def, hresolved]
  rfl

/-- **What a script says does not depend on the numbers of its lines**: it follows from what has
been finished at its end. -/
theorem map_unnumbered_parse (script : String) :
    (parse script).map unnumbered =
      ((({} : Reading).steps 0 (lines script.toList)).map Reading.finished).map
        Reading.toDocument := by
  rw [parse_eq]
  cases ({} : Reading).steps 0 (lines script.toList) with
  | error fault => rfl
  | ok reading => exact congrArg Except.ok (unnumbered_ofReading reading _)

end Document

end RequestScript
