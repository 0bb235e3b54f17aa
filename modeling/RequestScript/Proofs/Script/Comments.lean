import RequestScript.Proofs.Script.ConfigBlock
import RequestScript.Proofs.Script.Document
import RequestScript.Proofs.Script.LineNumbers

/-!
# Comments

A comment says nothing about a request, and where no request is open it opens one that says nothing.
A configuration block knows no comments. There a comment is a scalar of no known name, which closes
the open section; or, if it is indented, it is a line of that section, and then it can be a header.
-/

namespace RequestScript

open Text

/-- A comment: without the blanks around it, it starts with `//`, or with `#` but not as a block
separator does. -/
def IsComment (text : List Char) : Prop :=
  ['/', '/'] <+: trim text ∨ ['#'] <+: trim text ∧ ¬blockSeparator <+: trim text

instance (text : List Char) : Decidable (IsComment text) :=
  inferInstanceAs (Decidable (_ ∨ _))

/-- A line that starts with `#` or `/`, but not as a block separator does. A configuration block
knows nothing that starts so. -/
structure IsRemark (text : List Char) : Prop where
  exists_head : ∃ c ∈ ['#', '/'], ∃ rest, trim text = c :: rest
  no_separator : ¬blockSeparator <+: trim text

namespace IsRemark

variable {text : List Char}

theorem isEmpty_eq (h : IsRemark text) : (trim text).isEmpty = false := by
  obtain ⟨c, -, rest, hcons⟩ := h.exists_head
  rw [hcons]
  rfl

theorem isSeparator_eq (h : IsRemark text) : isSeparator (trim text) = false :=
  Bool.eq_false_iff.mpr (by simpa [isSeparator] using h.no_separator)

end IsRemark

namespace IsComment

variable {text : List Char}

theorem exists_head (h : IsComment text) :
    ∃ c ∈ ['#', '/'], ∃ rest, trim text = c :: rest := by
  rcases h with ⟨rest, hrest⟩ | ⟨⟨rest, hrest⟩, -⟩
  · exact ⟨'/', by decide, '/' :: rest, hrest.symm⟩
  · exact ⟨'#', by decide, rest, hrest.symm⟩

theorem no_separator (h : IsComment text) : ¬blockSeparator <+: trim text := by
  rcases h with ⟨rest, hrest⟩ | ⟨-, hseparator⟩
  · exact fun hseparator =>
      absurd (List.cons_prefix_cons.mp (hrest ▸ hseparator : blockSeparator <+: _)).1 (by decide)
  · exact hseparator

theorem isRemark (h : IsComment text) : IsRemark text :=
  ⟨h.exists_head, h.no_separator⟩

/-- A comment is none of the marks that stand outside requests. -/
theorem unmarked (h : IsComment text) : Document.Unmarked (trim text) where
  ne_nil := by
    obtain ⟨c, -, rest, hcons⟩ := h.exists_head
    exact hcons ▸ List.cons_ne_nil c rest
  ne_config := by
    obtain ⟨c, hc, rest, hcons⟩ := h.exists_head
    intro hmarker
    obtain rfl : c = '@' := (List.cons.inj (hcons.symm.trans hmarker)).1
    exact absurd hc (by decide)
  no_doc := by
    rintro ⟨rest, hrest⟩
    rcases h with ⟨more, hmore⟩ | ⟨⟨more, hmore⟩, -⟩
    · exact absurd (hrest.trans hmore.symm) (by simp [Document.Reading.docStart])
    · exact absurd (hrest.trans hmore.symm) (by simp [Document.Reading.docStart])
  no_separator := h.no_separator

/-- A comment says nothing about a request. -/
theorem read_eq (h : IsComment text) : ScriptLine.read (trim text) = .ok .comment := by
  have hcomment : ScriptLine.isComment (trim text) = true := by
    rcases h with hslashes | ⟨hhash, -⟩
    · simp [ScriptLine.isComment, List.isPrefixOf_iff_prefix.mpr hslashes]
    · simp [ScriptLine.isComment, List.isPrefixOf_iff_prefix.mpr hhash]
  rw [ScriptLine.read, hcomment]
  rfl

end IsComment

/-- The target of an assertion stands at the start of its expression, unless a directive does. -/
theorem Assertion.target_isPrefix {expression : List Char} {assertion : Assertion}
    (h : ofChars? expression = some assertion) (hdirective : ¬['@'] <+: trim expression) :
    assertion.target.word.toList <+: trim expression := by
  have hdrop : dropStart? "@assert".toList (trim expression) = none := by
    rw [dropStart?, if_neg]
    intro hprefix
    rw [List.isPrefixOf_iff_prefix] at hprefix
    exact hdirective ((by decide : ['@'] <+: "@assert".toList).trans hprefix)
  have hsubject (word : List Char) : (subject word).1.word.toList <+: word := by
    unfold subject
    split
    · simp [Target.word_ofWord]
    · next target path hcut =>
      simp [Target.word_ofWord, eq_of_cut? hcut]
  have htarget : assertion.target = (subject (nextWord (trim expression)).1).1 := by
    unfold ofChars? at h
    simp only [hdrop, Option.map_none, Option.getD_none] at h
    repeat' split at h
    all_goals cases h
    all_goals rfl
  rw [htarget]
  exact (hsubject _).trans (List.takeWhile_prefix _)

/-! ## Remarks in configuration blocks -/

namespace ConfigBlock

/-- A text that starts like a remark is a scalar of no known name. -/
theorem applyScalarLine_of_head {c : Char} (hc : c ∈ ['#', '/']) (cs : List Char)
    (block : ConfigBlock) : block.applyScalarLine (c :: cs) = ⟨block, none⟩ := by
  have hblank : isBlank c = false ∧ c ≠ ':' := by
    simp only [List.mem_cons, List.not_mem_nil, or_false] at hc
    rcases hc with rfl | rfl <;> decide
  obtain ⟨front, value, hparts⟩ : ∃ front value,
      (cut? ':' (c :: cs)).getD (c :: cs, []) = (c :: front, value) := by
    rw [cut?, if_neg hblank.2]
    cases cut? ':' cs with
    | none => exact ⟨cs, [], rfl⟩
    | some parts => exact ⟨parts.1, parts.2, rfl⟩
  -- The names of the scalars start with letters.
  have hname (name : String) (letter : Char) (hletter : name.toList.head? = some letter)
      (hother : letter ∉ ['#', '/']) : String.ofList (c :: trimEnd front) ≠ name := by
    rintro rfl
    rw [String.toList_ofList, List.head?_cons] at hletter
    exact hother (Option.some.inj hletter ▸ hc)
  unfold applyScalarLine
  simp only [hparts, trim_cons_of_not_isBlank hblank.1]
  split
  · next heq => exact absurd heq (hname "headers" 'h' rfl (by decide))
  · next heq => exact absurd heq (hname "assert" 'a' rfl (by decide))
  · next heq => exact absurd heq (hname "baseUrl" 'b' rfl (by decide))
  · next heq => exact absurd heq (hname "collection" 'c' rfl (by decide))
  · next heq => exact absurd heq (hname "timeout" 't' rfl (by decide))
  · next heq => exact absurd heq (hname "retries" 'r' rfl (by decide))
  · rfl

/-- A remark does not end a block. -/
theorem isEnd_remark {text : List Char} (h : IsRemark text) : isEnd (trim text) = false := by
  obtain ⟨c, hc, rest, hcons⟩ := h.exists_head
  have hmethod : ScriptLine.methodLine? (trim text) = none := by
    have hblank : isBlank c = false := by
      simp only [List.mem_cons, List.not_mem_nil, or_false] at hc
      rcases hc with rfl | rfl <;> decide
    have hmark : c ∈ [':', '#', '@', '/'] := by
      simp only [List.mem_cons, List.not_mem_nil, or_false] at hc ⊢
      tauto
    refine ScriptLine.methodLine?_of_mark hmark ?_
    simp [hcons, hblank]
  have hat : ['@'].isPrefixOf (trim text) = false := by
    simp only [List.mem_cons, List.not_mem_nil, or_false] at hc
    rcases hc with rfl | rfl <;> rw [hcons] <;> rfl
  rw [isEnd, h.isSeparator_eq, hat, hmethod]
  rfl

/-- A remark says nothing in a section, unless it has the colon of a header. -/
theorem applySectionLine_remark {text : List Char} (h : IsRemark text) {kind : Section}
    (hheader : kind = .headers → ':' ∉ text) (block : ConfigBlock) :
    block.applySectionLine (trim text) kind = block := by
  cases kind with
  | headers =>
    have hcut : cut? ':' (trim text) = none :=
      cut?_eq_none fun hcolon => hheader rfl (trim_subset text hcolon)
    rw [applySectionLine, hcut]
  | assertions =>
    obtain ⟨c, hc, rest, hcons⟩ := h.exists_head
    have hnone : Assertion.ofChars? (trim text) = none := by
      rw [Option.eq_none_iff_forall_ne_some]
      intro assertion hspelled
      have hknown := (Assertion.wellFormed_ofChars? hspelled).target
      have hprefix := Assertion.target_isPrefix hspelled (by
        rw [trim_trim, hcons]
        intro hat
        exact absurd ((List.cons_prefix_cons.mp hat).1 ▸ hc) (by decide))
      rw [trim_trim, hcons] at hprefix
      cases htarget : assertion.target with
      | unknown word => simp [htarget, Target.isKnown] at hknown
      | status | body | header | duration | size | cookie =>
        rw [htarget] at hprefix
        exact absurd ((List.cons_prefix_cons.mp hprefix).1 ▸ hc) (by decide)
    rw [applySectionLine, hnone]

/-- Whether a line belongs to the open section, if there is one. -/
def isNested (text : List Char) : Bool :=
  isIndented text && !isSeparator (trim text)

namespace Reading

variable {current : Reading} {text : List Char}

/-- A remark outside a section is a scalar of no known name, and closes the open section. -/
theorem step?_remark (h : IsRemark text)
    (hclosed : current.openSection = none ∨ isIndented text = false) (index : Nat) :
    current.step? index text = some ⟨{ current.block with endLine := index }, none⟩ := by
  have hnested :
      (if isIndented text && !isSeparator (trim text) then current.openSection else none) =
        none := by
    rcases hclosed with hnone | hindented
    · rw [hnone, ite_self]
    · rw [hindented, Bool.false_and]
      rfl
  obtain ⟨c, hc, rest, hcons⟩ := h.exists_head
  have hscalar := applyScalarLine_of_head hc rest current.block
  rw [← hcons] at hscalar
  simp only [step?, h.isEmpty_eq, hnested, isEnd_remark h, hscalar, Bool.false_eq_true, if_false]

/-- A remark in a section says nothing, unless it is a header. -/
theorem step?_remark_of_isIndented (h : IsRemark text) {kind : Section}
    (hopen : current.openSection = some kind) (hindented : isIndented text = true)
    (hheader : kind = .headers → ':' ∉ text) (index : Nat) :
    current.step? index text =
      some { current with block := { current.block with endLine := index } } := by
  have hne : trim text ≠ [] := List.isEmpty_eq_false_iff.mp h.isEmpty_eq
  rw [step?_of_isIndented hopen hne hindented h.isSeparator_eq, applySectionLine_remark h hheader]

/-- Where a section is closed makes no difference to a line outside it. -/
theorem step?_closeSection (current : Reading) (hnested : isNested text = false)
    (hne : trim text ≠ []) (index : Nat) :
    ({ current with openSection := none } : Reading).step? index text =
      current.step? index text := by
  have hempty : (trim text).isEmpty = false := by simpa using hne
  rw [isNested] at hnested
  simp [step?, hempty, hnested]

end Reading

end ConfigBlock

/-! ## Comments in scripts -/

namespace Document

/-- Whether a comment says nothing in some place before more lines. In a configuration block it
stands outside a section, or in a section as no header, or where the section ends anyway. -/
def Mode.Ignores (comment : List Char) (rest : List (List Char)) : Mode → Prop
  | .outside | .head _ => True
  | .body _ | .doc _ => False
  | .config current =>
    ∀ kind ∈ current.openSection,
      if ConfigBlock.isIndented comment then kind = .headers → ':' ∉ comment
      else ∀ text ∈ rest.find? fun text => !(trim text).isEmpty, ConfigBlock.isNested text = false

namespace Reading

variable {reading : Reading} {comment : List Char}

/-- Where the open section of a block ends anyway it can be closed before. -/
theorem finished_steps_closeSection {current : ConfigBlock.Reading}
    (hmode : reading.mode = .config current) {rest : List (List Char)}
    (hrest : ∀ text ∈ rest.find? fun text => !(trim text).isEmpty,
      ConfigBlock.isNested text = false) (index : Nat) :
    (({ reading with mode := .config { current with openSection := none } } : Reading).steps index
        rest).map finished =
      (reading.steps index rest).map finished := by
  induction rest generalizing index with
  | nil => simp [steps, Except.map, finished, closeBefore, hmode]
  | cons text rest ih =>
    by_cases hblank : trim text = []
    · -- A blank line leaves the section as it is.
      have hstep (current : ConfigBlock.Reading) : current.step? index text = some current := by
        simp [ConfigBlock.Reading.step?, hblank]
      have hsame : reading.step index text = .ok reading := by
        rw [step_of_step?_eq_some hmode (hstep current), ← hmode]
      rw [steps, steps, hsame, step_of_step?_eq_some rfl (hstep _)]
      refine ih ?_ (index + 1)
      simpa [hblank] using hrest
    · have hnested : ConfigBlock.isNested text = false := by
        refine hrest text ?_
        simp [hblank]
      have hbelongs := current.step?_closeSection hnested hblank index
      rw [steps, steps]
      simp only [step, hmode, hbelongs]
      simp [closeBefore, hmode]

/-- A remark where a configuration block ignores it can be read, and what is read behind it is read
as without it. -/
theorem exists_step_remark (hremark : IsRemark comment) {current : ConfigBlock.Reading}
    (hmode : reading.mode = .config current) {rest : List (List Char)}
    (hignores : Mode.Ignores comment rest (.config current)) (index line : Nat) :
    ∃ next, reading.step index comment = .ok next ∧
      (next.steps (index + 1) rest).map finished = (reading.steps line rest).map finished := by
  have hsame {openSection : Option ConfigBlock.Section}
      (hopen : current.openSection = openSection) : ({ reading with
        mode := .config ⟨{ current.block with endLine := index }, openSection⟩ } :
          Reading).unnumbered = reading.unnumbered := by
    rw [unnumbered, unnumbered, hmode, ← hopen]
    rfl
  cases hopen : current.openSection with
  | none =>
    have hnext := ConfigBlock.Reading.step?_remark hremark (.inl hopen) index
    exact ⟨_, step_of_step?_eq_some hmode hnext, finished_steps_congr (hsame hopen) _ _ rest⟩
  | some kind =>
    have hkind := hignores kind hopen
    split at hkind
    · next hindented =>
      have hnext :=
        ConfigBlock.Reading.step?_remark_of_isIndented hremark hopen hindented hkind index
      exact ⟨_, step_of_step?_eq_some hmode hnext, finished_steps_congr (hsame rfl) _ _ rest⟩
    · next hindented =>
      have houtside := Bool.eq_false_iff.mpr hindented
      have hnext : current.step? index comment = _ :=
        ConfigBlock.Reading.step?_remark hremark (.inr houtside) index
      refine ⟨_, step_of_step?_eq_some hmode hnext, ?_⟩
      have hclosed : ({ reading with
          mode := .config ⟨{ current.block with endLine := index }, none⟩ } :
            Reading).unnumbered =
          ({ reading with mode := .config { current with openSection := none } } :
            Reading).unnumbered := rfl
      exact (finished_steps_congr hclosed _ line rest).trans
        (finished_steps_closeSection hmode hkind line)

/-- A comment where it says nothing can be read, and what is read behind it is read as without
it. -/
theorem exists_step_comment (hcomment : IsComment comment) {rest : List (List Char)}
    (hignores : reading.mode.Ignores comment rest) (index line : Nat) :
    ∃ next, reading.step index comment = .ok next ∧
      (next.steps (index + 1) rest).map finished = (reading.steps line rest).map finished := by
  cases hmode : reading.mode with
  | body draft | doc draft =>
    rw [hmode] at hignores
    exact hignores.elim
  | head draft =>
    refine ⟨reading, ?_, finished_steps_congr rfl _ _ rest⟩
    rw [step_head hmode hcomment.unmarked hcomment.read_eq]
    change Except.ok ({ reading with mode := .head draft } : Reading) = _
    rw [← hmode]
  | outside =>
    -- Outside a request a comment is read as in the head of a new one.
    have hsame : ({ reading with mode := .head (.start index) } : Reading).unnumbered =
        reading.unnumbered := by
      rw [unnumbered, unnumbered, hmode]
      rfl
    have hstep := step_congr hsame index index comment
    rw [step_head rfl hcomment.unmarked hcomment.read_eq] at hstep
    obtain ⟨next, hnext, hunnumbered⟩ := map_eq_ok_iff.mp hstep.symm
    exact ⟨next, hnext, finished_steps_congr (hunnumbered.trans hsame) _ _ rest⟩
  | config current =>
    exact exists_step_remark hcomment.isRemark hmode (hmode ▸ hignores) index line

end Reading

/-- A script says the same without a line, but for the numbers of lines, if what comes behind the
line is read as without it. -/
theorem map_unnumbered_parse_insert {script inserted : String} {front back : List (List Char)}
    {line : List Char} {reading : Reading} (hscript : lines script.toList = front ++ back)
    (hinserted : lines inserted.toList = front ++ line :: back)
    (hfront : ({} : Reading).steps 0 front = .ok reading)
    (hline : ∃ next, reading.step front.length line = .ok next ∧
      (next.steps (front.length + 1) back).map Reading.finished =
        (reading.steps front.length back).map Reading.finished) :
    (parse inserted).map unnumbered = (parse script).map unnumbered := by
  obtain ⟨next, hstep, hsteps⟩ := hline
  have hread : (({} : Reading).steps 0 (lines inserted.toList)).map Reading.finished =
      (({} : Reading).steps 0 (lines script.toList)).map Reading.finished := by
    rw [hscript, hinserted, Reading.steps_append, Reading.steps_append, hfront, Nat.zero_add]
    change ((reading.step front.length line) >>= fun next =>
      next.steps (front.length + 1) back).map Reading.finished = _
    rw [hstep]
    exact hsteps
  rw [map_unnumbered_parse, map_unnumbered_parse, hread]

/-- **Comments are neutral** where nothing but a request can be open: a script says the same without
them, but for the numbers of lines. In a configuration block this holds of those that are neither
headers nor close a section. -/
theorem parse_comment {script commented : String} {front back : List (List Char)}
    {comment : List Char} {reading : Reading} (hscript : lines script.toList = front ++ back)
    (hcommented : lines commented.toList = front ++ comment :: back)
    (hcomment : IsComment comment) (hfront : ({} : Reading).steps 0 front = .ok reading)
    (hignores : reading.mode.Ignores comment back) :
    (parse commented).map unnumbered = (parse script).map unnumbered :=
  map_unnumbered_parse_insert hscript hcommented hfront
    (Reading.exists_step_comment hcomment hignores _ _)

/-- A script with a section of assertions, and with a line among them or without. -/
def assertingScript (line : String) : String :=
  "@config\nassert:\n  status == 200\n" ++ line ++ "  size < 9\n\nGET http://h/\n"

theorem parse_comment_assertingScript :
    (parse (assertingScript "  # was: size < 5\n")).map unnumbered =
        (parse (assertingScript "")).map unnumbered ∧
      (parse (assertingScript "")).map (fun document =>
          document.requests.map fun request => request.assertions.map Assertion.label) =
        .ok [["status == 200", "size < 9"]] := by
  have hscript : lines (assertingScript "").toList =
      ["@config".toList, "assert:".toList, "  status == 200".toList] ++
        ["  size < 9".toList, [], "GET http://h/".toList, []] := by
    decide +kernel
  have hcommented : lines (assertingScript "  # was: size < 5\n").toList =
      ["@config".toList, "assert:".toList, "  status == 200".toList] ++
        "  # was: size < 5".toList :: ["  size < 9".toList, [], "GET http://h/".toList, []] := by
    decide +kernel
  have hfront : ({} : Reading).steps 0
      ["@config".toList, "assert:".toList, "  status == 200".toList] =
      .ok { mode := .config {
        block := {
          assertions := [{ target := .status, operator := .equal, expected := some "200" }]
          endLine := 2 }
        openSection := some .assertions } } := rfl
  have hignores : Mode.Ignores "  # was: size < 5".toList
      ["  size < 9".toList, [], "GET http://h/".toList, []] (.config {
        block := {
          assertions := [{ target := .status, operator := .equal, expected := some "200" }]
          endLine := 2 }
        openSection := some .assertions }) := by
    rintro kind ⟨⟩
    exact nofun
  exact ⟨parse_comment hscript hcommented (by decide) hfront hignores, by decide +kernel⟩

/-- A comment among the headers of a configuration block is not neutral: it is one of them. -/
theorem header_comment_not_neutral :
    ¬∀ (script commented : String) (front back : List (List Char)) (comment : List Char)
        (reading : Reading), lines script.toList = front ++ back →
      lines commented.toList = front ++ comment :: back → IsComment comment →
      ({} : Reading).steps 0 front = .ok reading → (∀ draft, reading.mode ≠ .body draft) →
      (∀ draft, reading.mode ≠ .doc draft) →
        (parse commented).map unnumbered = (parse script).map unnumbered := by
  intro hneutral
  let script := "@config\nheaders:\n  A: 1\n###\nGET http://h/\n"
  let commented := "@config\nheaders:\n  A: 1\n  # B: 2\n###\nGET http://h/\n"
  have hscript : lines script.toList =
      ["@config".toList, "headers:".toList, "  A: 1".toList] ++
        ["###".toList, "GET http://h/".toList, []] := by
    decide +kernel
  have hcommented : lines commented.toList =
      ["@config".toList, "headers:".toList, "  A: 1".toList] ++
        "  # B: 2".toList :: ["###".toList, "GET http://h/".toList, []] := by
    decide +kernel
  have hfront : ({} : Reading).steps 0 ["@config".toList, "headers:".toList, "  A: 1".toList] =
      .ok { mode := .config {
        block := { headers := [("A", "1")], endLine := 2 }, openSection := some .headers } } := rfl
  have hsame := hneutral script commented _ _ "  # B: 2".toList _ hscript hcommented
    (by decide) hfront (by simp) (by simp)
  have hheaders : ((parse commented).map unnumbered).map (·.requests.map (·.headers)) =
      .ok [[("A", "1"), ("# B", "2")]] := by
    decide +kernel
  have hplain : ((parse script).map unnumbered).map (·.requests.map (·.headers)) =
      .ok [[("A", "1")]] := by
    decide +kernel
  rw [hsame, hplain] at hheaders
  exact absurd hheaders (by decide)

end Document

end RequestScript
