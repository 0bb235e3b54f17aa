import RequestScript.Proofs.Script.ConfigBlock

/-!
# Reading configuration blocks that are laid out

Behind its marker a configuration block may be laid out in many ways. Each of them reads as the
block, up to the end of the script or to a block separator, and what comes after the separator
only adds blocks behind it.
-/

namespace RequestScript

open Text

namespace ConfigBlock

/-! ## The lines of a layout -/

/-- The text of a row stays as it is where lines are cut. -/
structure Row.IsPlain (row : Row) : Prop where
  /-- It is on one line. -/
  single : '\n' ∉ row.text
  /-- It has no carriage return at its end. -/
  no_return : row.text.getLast? ≠ some '\r'

theorem Entry.WellFormed.lineFeed_not_mem_value {entry : Entry} (h : entry.WellFormed) :
    '\n' ∉ entry.value := by
  cases entry with
  | collection name => exact h.2.single
  | baseUrl base => exact h.2.single
  | timeout n | retries n => exact fun hmem => absurd (isBlank_of_mem_decimalInt _ hmem) (by decide)
  | headers | assertions => exact List.not_mem_nil

/-- A text without blanks around it has no carriage return at its end. -/
theorem getLast?_ne_return {cs : List Char} (h : trim cs = cs) : cs.getLast? ≠ some '\r' :=
  fun hlast => absurd (trimEnd_eq_self_iff.mp (trim_eq_self_iff.mp h).2 '\r' hlast) (by decide)

theorem Entry.WellFormed.isPlain_lead {entry : Entry} (h : entry.WellFormed) (indented : Bool) :
    (Row.mk indented entry.lead).IsPlain := by
  have hword : '\n' ∉ entry.word := by
    intro hmem
    obtain ⟨-, -, hblank, -⟩ := entry.word_spec
    exact absurd (List.all_eq_true.mp hblank '\n' hmem) (by decide)
  refine ⟨?_, getLast?_ne_return h.trim_lead⟩
  simp only [lead, tail]
  split <;> simp [hword, h.lineFeed_not_mem_value]

/-- Every row of an entry stays as it is. -/
theorem Entry.WellFormed.isPlain_rows {entry : Entry} (h : entry.WellFormed) :
    ∀ row ∈ entry.rows, row.IsPlain := by
  refine List.forall_mem_cons.mpr ⟨h.isPlain_lead false, ?_⟩
  refine List.forall_mem_map.mpr fun text htext => ?_
  cases entry with
  | collection | baseUrl | timeout | retries => cases htext
  | headers pairs =>
    obtain ⟨⟨key, value⟩, hmem, rfl⟩ := List.mem_map.mp htext
    obtain ⟨hkey, hvalue⟩ := h _ hmem
    constructor
    · simp [hkey.phrase.single, hvalue.single]
    · -- A header without a value ends with the blank behind the colon.
      intro hlast
      cases hlist : value.toList with
      | nil => simp [hlist] at hlast
      | cons c more =>
        have hend := getLast?_ne_return hvalue.trimmed
        simp_all
  | assertions stated =>
    obtain ⟨assertion, hmem, rfl⟩ := List.mem_map.mp htext
    have hassertion := h assertion hmem
    exact ⟨hassertion.lineFeed_not_mem_label, getLast?_ne_return hassertion.trim_label⟩

theorem forall_isPlain {entries : List Entry} (h : ∀ entry ∈ entries, entry.WellFormed) :
    ∀ row ∈ entries.flatMap Entry.rows, row.IsPlain := by
  intro row hrow
  obtain ⟨entry, hentry, hmem⟩ := List.mem_flatMap.mp hrow
  exact (h entry hentry).isPlain_rows row hmem

section Lines

variable {row : Row} {rows : List Row} {line read : List Char} {lines reads : List (List Char)}

theorem Row.IsWritten.isPlain (h : row.IsWritten line) (hplain : row.IsPlain) :
    '\n' ∉ line ∧ line.getLast? ≠ some '\r' := by
  obtain ⟨hsingle, hlast⟩ := hplain
  unfold IsWritten at h
  split at h
  · obtain rfl | rfl := h <;> cases htext : row.text <;> simp_all
  · obtain rfl := h
    exact ⟨hsingle, hlast⟩

/-- The lines of a layout are lines. -/
theorem IsLayout.single (h : IsLayout rows lines) (hplain : ∀ row ∈ rows, row.IsPlain) :
    ∀ line ∈ lines, '\n' ∉ line := by
  induction h with
  | nil => exact nofun
  | blank _ hsingle _ ih => exact List.forall_mem_cons.mpr ⟨hsingle, ih hplain⟩
  | row hrow _ ih =>
    obtain ⟨hfirst, hrest⟩ := List.forall_mem_cons.mp hplain
    exact List.forall_mem_cons.mpr ⟨(hrow.isPlain hfirst).1, ih hrest⟩

/-- The lines of a layout are read as a layout of the same rows. -/
theorem IsLayout.of_isReadAs (h : IsLayout rows lines) (hplain : ∀ row ∈ rows, row.IsPlain)
    (hread : List.Forall₂ IsReadAs lines reads) : IsLayout rows reads := by
  induction h generalizing reads with
  | nil =>
    cases hread
    exact .nil
  | blank hblank hsingle _ ih =>
    obtain _ | ⟨hline, hrest⟩ := hread
    refine .blank (hline.trim_eq.trans hblank) ?_ (ih hplain hrest)
    rcases hline with rfl | rfl
    · exact hsingle
    · exact fun hmem => hsingle (List.mem_append_left _ hmem)
  | row hrow _ ih =>
    obtain ⟨hfirst, hmore⟩ := List.forall_mem_cons.mp hplain
    obtain _ | ⟨hline, hrest⟩ := hread
    rw [hline.eq_of_getLast?_ne (hrow.isPlain hfirst).2]
    exact .row hrow (ih hmore hrest)

end Lines

end ConfigBlock

/-! ## Lines behind a block -/

namespace Document.Reading

variable {reading next : Reading} {index : Nat} {text : List Char}

/-- What is open ends behind what has been finished. -/
theorem configs_suffix_closeBefore (reading : Reading) (index : Nat) :
    reading.configs <:+ (reading.closeBefore index).configs := by
  unfold closeBefore
  split
  · exact List.suffix_cons _ _
  · split <;> exact List.suffix_rfl

/-- No line takes away a block that has been finished. -/
theorem configs_suffix_of_step (h : reading.step index text = .ok next) :
    reading.configs <:+ next.configs := by
  rcases step_advances h with ⟨-, hsame⟩ | ⟨-, hsame⟩
  · exact hsame.configs ▸ List.suffix_rfl
  · exact hsame.configs ▸ configs_suffix_closeBefore reading index

/-- Outside a block a line that is no marker adds none. -/
theorem no_config_of_step (hconfig : ∀ current, reading.mode ≠ .config current)
    (hmarker : trim text ≠ configMarker) (h : reading.step index text = .ok next) :
    (∀ current, next.mode ≠ .config current) ∧ next.configs = reading.configs := by
  rcases step_advances h with ⟨hgoes, hsame⟩ | ⟨hopens, hsame⟩
  · refine ⟨fun current hcurrent => ?_, hsame.configs⟩
    cases hgoes with
    | request _ htaken => simp [draft?, hcurrent] at htaken
    | config hmode => exact hconfig _ hmode
  · have hclosed := configs_closeBefore_of_ne hconfig index
    refine ⟨fun current hcurrent => ?_, hsame.configs.trans hclosed⟩
    cases hopens with
    | nothing _ hnone => exact hnone current hcurrent
    | request htaken => simp [draft?, hcurrent] at htaken
    | config hmark => exact hmarker hmark

/-- No lines take away a block that has been finished. -/
theorem configs_suffix_of_steps {texts : List (List Char)}
    (h : reading.steps index texts = .ok next) : reading.configs <:+ next.configs := by
  refine @steps_induction _ _ _ (fun _ later => reading.configs <:+ later.configs) _ ?_
    List.suffix_rfl h
  intro _ _ _ _ _ hbefore hline
  exact hbefore.trans (configs_suffix_of_step hline)

/-- Outside a block lines without a marker add none. -/
theorem no_config_of_steps {texts : List (List Char)}
    (hconfig : ∀ current, reading.mode ≠ .config current)
    (hmarker : ∀ text ∈ texts, trim text ≠ configMarker)
    (h : reading.steps index texts = .ok next) :
    (∀ current, next.mode ≠ .config current) ∧ next.configs = reading.configs := by
  refine @steps_induction _ _ _
    (fun _ later => (∀ current, later.mode ≠ .config current) ∧ later.configs = reading.configs) _
    ?_ ⟨hconfig, rfl⟩ h
  intro text htext _ _ _ hbefore hline
  obtain ⟨hnone, hsame⟩ := no_config_of_step hbefore.1 (hmarker text htext) hline
  exact ⟨hnone, hsame.trans hbefore.2⟩

theorem steps_ok_of_forall {texts : List (List Char)}
    (h : ∀ text ∈ texts, ¬ScriptLine.IsOverlong (trim text)) (reading : Reading) (index : Nat) :
    ∃ next, reading.steps index texts = .ok next := by
  cases hsteps : reading.steps index texts with
  | ok next => exact ⟨next, rfl⟩
  | error fault =>
    obtain ⟨front, line, back, middle, rfl, -, hline⟩ := steps_eq_error_iff.mp hsteps
    exact absurd (step_eq_error_iff.mp hline).2.2 (h line (by simp))

/-- A block separator finishes an open block. -/
theorem step_separator_of_config {current : ConfigBlock.Reading}
    (hseparator : isSeparator (trim text) = true) (hmode : reading.mode = .config current) :
    reading.step index text = .ok { reading with
      mode := .head (.start index), configs := current.block :: reading.configs } := by
  obtain ⟨rest, hrest⟩ : blockSeparator <+: trim text := by simpa [isSeparator] using hseparator
  have htext : trim text = '#' :: '#' :: '#' :: rest := hrest.symm
  have hempty : (trim text).isEmpty = false := by rw [htext]; rfl
  have hnone : current.step? index text = none := by
    simp [ConfigBlock.Reading.step?, ConfigBlock.isEnd, hseparator, hempty]
  have hdoc : ∀ draft, (reading.closeBefore index).mode ≠ .doc draft := by
    simp [closeBefore_of_config hmode]
  have hmarker : trim text ≠ configMarker := by
    intro hmarker
    have hhead : some '#' = configMarker.head? := congrArg List.head? (htext.symm.trans hmarker)
    exact absurd hhead (by decide)
  have hstart : docStart.isPrefixOf (trim text) = false := by
    simp [htext, docStart, List.isPrefixOf]
  rw [step_of_step?_eq_none hmode hnone]
  simp only [line_eq hdoc, if_neg hmarker, hstart, Bool.and_false, Bool.false_eq_true, if_false,
    hseparator, if_true]
  simp [closeBefore, hmode, draft?]

end Document.Reading

namespace ConfigBlock

open Document.Reading (configMarker)

variable {content : Content} {entries : List Entry} {lines : List (List Char)}

/-- Whatever is written in the place of a block's entries is well formed. -/
theorem Content.WellFormed.forall_of_perm (h : content.WellFormed)
    (hentries : (entries.filter Entry.saysSomething).Perm content.entries) :
    ∀ entry ∈ entries, entry.WellFormed := by
  intro entry hentry
  cases hsaid : entry.saysSomething with
  | true =>
    exact h.forall_entries entry (hentries.subset (List.mem_filter.mpr ⟨hentry, hsaid⟩))
  | false =>
    cases entry with
    | collection | baseUrl | timeout | retries => cases hsaid
    | headers pairs | assertions stated => simp_all [Entry.saysSomething, Entry.WellFormed]

/-- The marker opens a block, and the lines behind it say what the block says. -/
theorem Content.WellFormed.steps_layout (h : content.WellFormed)
    (hentries : (entries.filter Entry.saysSomething).Perm content.entries)
    (hlayout : IsLayout (entries.flatMap Entry.rows) lines) :
    ∃ current : Reading, current.block.content = content ∧
      ({} : Document.Reading).steps 0 (configMarker :: lines) =
        .ok { mode := .config current } := by
  obtain ⟨openSection, hreads⟩ := Entry.reads_flatMap_rows (h.forall_of_perm hentries) {}
  have hleads := hreads.leads hlayout
  obtain ⟨current, hcurrent, hsteps⟩ :=
    hleads {} { block := { startLine := 0, endLine := 0 } } 1 rfl
  refine ⟨current, ?_, ?_⟩
  · rw [← Content.foldl_of_perm h.distinct hentries]
    exact congrArg Progress.content hcurrent
  · have hopen : ({} : Document.Reading).step 0 configMarker =
        .ok { mode := .config { block := { startLine := 0, endLine := 0 } } } := rfl
    rw [Document.Reading.steps, hopen]
    exact hsteps

/-- The marker and the lines behind it are read as the marker and a layout of the same rows. -/
theorem Content.WellFormed.read_layout (h : content.WellFormed)
    (hentries : (entries.filter Entry.saysSomething).Perm content.entries)
    (hlayout : IsLayout (entries.flatMap Entry.rows) lines) {read : List (List Char)}
    (hread : List.Forall₂ IsReadAs (configMarker :: lines) read) :
    ∃ reads, read = configMarker :: reads ∧ IsLayout (entries.flatMap Entry.rows) reads := by
  have hplain := forall_isPlain (h.forall_of_perm hentries)
  obtain _ | ⟨hmarker, hrest⟩ := hread
  rcases hmarker with rfl | hreturn
  · exact ⟨_, rfl, hlayout.of_isReadAs hplain hrest⟩
  · have hlast := congrArg List.getLast? hreturn
    rw [List.getLast?_concat] at hlast
    exact absurd hlast (by decide)

/-- The marker and the lines behind it are lines. -/
theorem Content.WellFormed.single_layout (h : content.WellFormed)
    (hentries : (entries.filter Entry.saysSomething).Perm content.entries)
    (hlayout : IsLayout (entries.flatMap Entry.rows) lines) :
    ∀ line ∈ configMarker :: lines, '\n' ∉ line :=
  List.forall_mem_cons.mpr
    ⟨by decide, hlayout.single (forall_isPlain (h.forall_of_perm hentries))⟩

/-- A block separator and what comes behind it only add blocks behind the first one. -/
theorem configs_of_separator {reading next : Document.Reading} {current : Reading}
    {index count : Nat} {first : List Char} {back : List (List Char)}
    (hmode : reading.mode = .config current) (hconfigs : reading.configs = [])
    (hfirst : isSeparator (trim first) = true)
    (h : reading.steps index (first :: back) = .ok next) :
    ∃ more, (Document.ofReading next count).configs = current.block :: more ∧
      ((∀ text ∈ back, trim text ≠ configMarker) → more = []) := by
  obtain ⟨middle, hstep, hsteps⟩ := Document.Reading.exists_step_of_steps_cons h
  rw [Document.Reading.step_separator_of_config hfirst hmode, hconfigs] at hstep
  obtain rfl := Except.ok.inj hstep
  have hsuffix : [current.block] <:+ next.configs :=
    Document.Reading.configs_suffix_of_steps hsteps
  obtain ⟨more, hmore⟩ :=
    hsuffix.trans (Document.Reading.configs_suffix_closeBefore next count)
  refine ⟨more.reverse, ?_, fun hmarker => ?_⟩
  · rw [Document.ofReading, ← hmore, List.reverse_append, List.reverse_singleton]
    rfl
  · obtain ⟨hnone, hsame⟩ := Document.Reading.no_config_of_steps (by simp) hmarker hsteps
    rw [Document.Reading.configs_closeBefore_of_ne hnone, hsame] at hmore
    simpa using hmore

/-- A text that starts with a block separator has one as its first line. -/
theorem lines_of_separator {back : List Char} (h : blockSeparator <+: back) :
    ∃ first rest, Text.lines back = first :: rest ∧ isSeparator (trim first) = true := by
  obtain ⟨behind, rfl⟩ := h
  obtain ⟨line, more, hlines⟩ := List.exists_cons_of_ne_nil (lines_ne_nil behind)
  refine ⟨blockSeparator ++ line, more, ?_, ?_⟩
  · have hcons : ∀ cs line, Text.lines cs = line :: more →
        Text.lines ('#' :: cs) = ('#' :: line) :: more :=
      fun _ _ => lines_cons (by decide) (fun hreturn => absurd hreturn (by decide))
    exact hcons _ _ (hcons _ _ (hcons _ _ hlines))
  · rw [trim_append_left (by decide) (by decide)]
    rfl

/-- A laid out block is read up to a block separator, and then what comes from there on. -/
theorem Content.WellFormed.parse_before (h : content.WellFormed)
    (hentries : (entries.filter Entry.saysSomething).Perm content.entries)
    (hlayout : IsLayout (entries.flatMap Entry.rows) lines) (back : String) :
    ∃ (current : Reading) (index count : Nat), current.block.content = content ∧
      Document.parse (write lines ++ "\n" ++ back) =
        (({ mode := .config current } : Document.Reading).steps index
          (Text.lines back.toList)).map (Document.ofReading · count) := by
  obtain ⟨read, hread, hjoin⟩ :=
    exists_lines_join (h.single_layout hentries hlayout) back.toList
  obtain ⟨reads, rfl, hreads⟩ := h.read_layout hentries hlayout hread
  obtain ⟨current, hcontent, hsteps⟩ := h.steps_layout hentries hreads
  have htext : (write lines ++ "\n" ++ back).toList =
      join ['\n'] (configMarker :: lines ++ [back.toList]) := by
    rw [write, join_concat (List.cons_ne_nil _ _)]
    simp
  refine ⟨current, 0 + (configMarker :: reads).length,
    (configMarker :: reads ++ Text.lines back.toList).length, hcontent, ?_⟩
  rw [Document.parse_eq, htext, hjoin, Document.Reading.steps_append, hsteps]
  rfl

/-- **A block reads as what it says**, however it is laid out: alone, and with whatever comes
behind a block separator, which can only add more blocks. -/
theorem parse_layout (h : content.WellFormed)
    (hentries : (entries.filter Entry.saysSomething).Perm content.entries)
    (hlayout : IsLayout (entries.flatMap Entry.rows) lines) :
    (∃ block : ConfigBlock, block.content = content ∧
      Document.parse (write lines) = .ok { configs := [block] }) ∧
      ∀ back : String, blockSeparator <+: back.toList →
        ((∀ line ∈ Text.lines back.toList, ¬ScriptLine.IsOverlong (trim line)) →
          ∃ document, Document.parse (write lines ++ "\n" ++ back) = .ok document) ∧
        ∀ document, Document.parse (write lines ++ "\n" ++ back) = .ok document →
          ∃ block more, block.content = content ∧ document.configs = block :: more ∧
            ((∀ line ∈ Text.lines back.toList, trim line ≠ configMarker) → more = []) := by
  constructor
  · have hread :=
      forall₂_lines_join (List.cons_ne_nil _ _) (h.single_layout hentries hlayout)
    obtain ⟨reads, hlines, hreads⟩ := h.read_layout hentries hlayout hread
    obtain ⟨current, hcontent, hsteps⟩ := h.steps_layout hentries hreads
    refine ⟨current.block, hcontent, ?_⟩
    rw [Document.parse_eq, write, String.toList_ofList, hlines, hsteps]
    rfl
  · intro back hback
    obtain ⟨current, index, count, hcontent, hparse⟩ := h.parse_before hentries hlayout back
    obtain ⟨first, rest, hfirst, hseparator⟩ := lines_of_separator hback
    rw [hparse, hfirst]
    constructor
    · intro hshort
      obtain ⟨next, hnext⟩ :=
        Document.Reading.steps_ok_of_forall hshort { mode := .config current } index
      exact ⟨Document.ofReading next count, by rw [hnext]; rfl⟩
    · intro document hdocument
      obtain ⟨next, hnext, rfl⟩ := map_eq_ok_iff.mp hdocument
      obtain ⟨more, hmore, hnone⟩ := configs_of_separator rfl rfl hseparator hnext
      refine ⟨current.block, more, hcontent, hmore, fun hmarker => hnone fun text htext => ?_⟩
      exact hmarker text (List.mem_cons_of_mem first htext)

/-! ## A block in an unusual order -/

/-- What a block says: everything but a timeout. -/
def mixed : Content where
  collection := some "api"
  baseUrl := some "http://h/"
  retries := some (-2)
  headers := [("X-Trace", "on"), ("Accept", "")]
  assertions := [{ target := .body, operator := .equal, path := some "id", expected := some "7" }]

/-- Its entries, the sections among the scalars. -/
def mixedEntries : List Entry :=
  [.assertions mixed.assertions, .retries (-2), .headers mixed.headers, .collection "api",
    .baseUrl "http://h/"]

/-- Its lines. -/
def mixedLines : List (List Char) :=
  ["assert:", "\tbody.id == 7", "", "retries: -2", "headers:", "  X-Trace: on", " \r", "\tAccept: ",
    "collection: api", "baseUrl: http://h/", ""].map String.toList

theorem wellFormed_mixed : mixed.WellFormed where
  collection := by decide
  baseUrl := by decide
  timeout := nofun
  retries := by decide
  distinct := by decide
  headers := by decide
  assertions :=
    List.forall_mem_singleton.mpr (Assertion.wellFormed_ofChars? (of_decide_eq_true rfl :
      Assertion.ofChars? "body.id == 7".toList = _))

theorem isLayout_mixed : IsLayout (mixedEntries.flatMap Entry.rows) mixedLines :=
  .row (by decide) <| .row (by decide) <| .blank (by decide) (by decide) <| .row (by decide) <|
    .row (by decide) <| .row (by decide) <| .blank (by decide) (by decide) <| .row (by decide) <|
    .row (by decide) <| .row (by decide) <| .blank (by decide) (by decide) .nil

theorem parse_layout_mixed :
    mixed.WellFormed ∧ (mixedEntries.filter Entry.saysSomething).Perm mixed.entries ∧
      IsLayout (mixedEntries.flatMap Entry.rows) mixedLines ∧
      ∃ block : ConfigBlock, block.content = mixed ∧
        Document.parse (write mixedLines) = .ok { configs := [block] } := by
  have hentries : (mixedEntries.filter Entry.saysSomething).Perm mixed.entries := by decide
  exact ⟨wellFormed_mixed, hentries, isLayout_mixed,
    (parse_layout wellFormed_mixed hentries isLayout_mixed).1⟩

end ConfigBlock

end RequestScript
