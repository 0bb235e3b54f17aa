import RequestScript.Proofs.Assertion.Label
import RequestScript.Proofs.Script.Document
import RequestScript.Proofs.Script.Faults
import RequestScript.Proofs.Text.Numeral

/-!
# Writing configuration blocks

A configuration block is written as its marker and one entry for each thing that it says: a scalar,
or a section with indented lines. The entries may come in any order, and blank lines may stand
anywhere between two lines. Reading what is written gives exactly what the block says.
-/

namespace RequestScript

open Text

namespace ConfigBlock

/-- What a configuration block says, wherever it stands. -/
structure Content where
  /-- The collection that the block is for. -/
  collection : Option String := none
  /-- What a URL that starts with a slash is appended to. -/
  baseUrl : Option String := none
  /-- The timeout in milliseconds. -/
  timeout : Option Int := none
  /-- The number of attempts after the first. -/
  retries : Option Int := none
  /-- The headers in order. -/
  headers : Headers := []
  /-- The assertions in order. -/
  assertions : List Assertion := []
  deriving DecidableEq

/-- What a block says. -/
def content (block : ConfigBlock) : Content :=
  { collection := block.collection, baseUrl := block.baseUrl, timeout := block.timeout
    retries := block.retries, headers := block.headers, assertions := block.assertions }

/-- The name of a header that can be written into a section. -/
structure IsKey (cs : List Char) : Prop where
  /-- It is not empty. -/
  ne_nil : cs ≠ []
  /-- It stands on one line and has no blanks around it. -/
  phrase : IsPhrase cs
  /-- It has no colon. -/
  no_colon : ':' ∉ cs
  /-- It does not start like a block separator. -/
  no_separator : ¬blockSeparator <+: cs

/-- Whether the numeral of an integer can be read. -/
def IsReadable (n : Int) : Prop :=
  (decimal n.natAbs).length ≤ digitLimit

instance (cs : List Char) : Decidable (IsKey cs) :=
  decidable_of_iff (cs ≠ [] ∧ IsPhrase cs ∧ ':' ∉ cs ∧ ¬blockSeparator <+: cs)
    ⟨fun ⟨ne_nil, phrase, no_colon, no_separator⟩ =>
        { ne_nil, phrase, no_colon, no_separator },
      fun h => ⟨h.ne_nil, h.phrase, h.no_colon, h.no_separator⟩⟩

instance (n : Int) : Decidable (IsReadable n) :=
  inferInstanceAs (Decidable ((decimal n.natAbs).length ≤ digitLimit))

/-- Whether what a block says can be written down. -/
structure Content.WellFormed (content : Content) : Prop where
  /-- The name of a collection is a phrase. -/
  collection : ∀ name ∈ content.collection, name.toList ≠ [] ∧ IsPhrase name.toList
  /-- The base of URLs is a phrase. -/
  baseUrl : ∀ base ∈ content.baseUrl, base.toList ≠ [] ∧ IsPhrase base.toList
  /-- The timeout has a numeral that can be read. -/
  timeout : ∀ milliseconds ∈ content.timeout, IsReadable milliseconds
  /-- So has the number of retries. -/
  retries : ∀ count ∈ content.retries, IsReadable count
  /-- No header is there twice. -/
  distinct : (Table.names content.headers).Nodup
  /-- Every header has a name that can be written down, and a value that may be empty. -/
  headers : ∀ header ∈ content.headers, IsKey header.1.toList ∧ IsPhrase header.2.toList
  /-- The assertions are well formed. -/
  assertions : ∀ assertion ∈ content.assertions, assertion.WellFormed

/-! ## Entries -/

/-- Something that a block says, as it is written: a scalar, or a section. -/
inductive Entry where
  | collection (name : String)
  | baseUrl (base : String)
  | timeout (milliseconds : Int)
  | retries (count : Int)
  | headers (pairs : Headers)
  | assertions (stated : List Assertion)
  deriving DecidableEq

namespace Entry

/-- The word that an entry starts with. -/
def word : Entry → List Char
  | .collection _ => "collection".toList
  | .baseUrl _ => "baseUrl".toList
  | .timeout _ => "timeout".toList
  | .retries _ => "retries".toList
  | .headers _ => "headers".toList
  | .assertions _ => "assert".toList

/-- What stands behind the word and its colon: the value of a scalar, and nothing in a section. -/
def value : Entry → List Char
  | .collection name => name.toList
  | .baseUrl base => base.toList
  | .timeout n | .retries n => decimalInt n
  | .headers _ | .assertions _ => []

/-- What stands behind the colon of the first line of an entry. -/
def tail (entry : Entry) : List Char :=
  if entry.value.isEmpty then [] else ' ' :: entry.value

/-- The first line of an entry. -/
def lead (entry : Entry) : List Char :=
  entry.word ++ ':' :: entry.tail

/-- The lines of a section, without their indentation. -/
def items : Entry → List (List Char)
  | .headers pairs => pairs.map fun (key, value) => key.toList ++ ':' :: ' ' :: value.toList
  | .assertions stated => stated.map fun assertion => assertion.label.toList
  | _ => []

/-- Whether an entry says something: a scalar does, and a section unless it is empty. -/
def saysSomething : Entry → Bool
  | .headers pairs => !pairs.isEmpty
  | .assertions stated => !stated.isEmpty
  | _ => true

end Entry

/-- What there is to be written down, each thing as one entry. -/
def Content.entries (content : Content) : List Entry :=
  (content.collection.map .collection).toList ++ (content.baseUrl.map .baseUrl).toList ++
    (content.timeout.map .timeout).toList ++ (content.retries.map .retries).toList ++
    [.headers content.headers, .assertions content.assertions].filter Entry.saysSomething

/-! ## Layouts -/

/-- A line of a block before it is laid out. -/
structure Row where
  /-- Whether it belongs to a section. -/
  indented : Bool
  /-- What it says. -/
  text : List Char

/-- The rows of an entry. -/
def Entry.rows (entry : Entry) : List Row :=
  ⟨false, entry.lead⟩ :: entry.items.map fun text => ⟨true, text⟩

/-- Whether a line is a row, indented by two spaces or a tab where it belongs to a section. -/
def Row.IsWritten (row : Row) (line : List Char) : Prop :=
  if row.indented then line = ' ' :: ' ' :: row.text ∨ line = '\t' :: row.text
  else line = row.text

instance (row : Row) (line : List Char) : Decidable (row.IsWritten line) :=
  inferInstanceAs (Decidable
    (if row.indented then line = ' ' :: ' ' :: row.text ∨ line = '\t' :: row.text
      else line = row.text))

/-- Lines on which rows are laid out, with blank lines anywhere between them. -/
inductive IsLayout : List Row → List (List Char) → Prop
  | nil : IsLayout [] []
  | blank {rows : List Row} {line : List Char} {lines : List (List Char)} :
      trim line = [] → '\n' ∉ line → IsLayout rows lines → IsLayout rows (line :: lines)
  | row {row : Row} {rows : List Row} {line : List Char} {lines : List (List Char)} :
      row.IsWritten line → IsLayout rows lines → IsLayout (row :: rows) (line :: lines)

/-- The script of a block whose lines are laid out behind its marker. -/
def write (lines : List (List Char)) : String :=
  String.ofList (join ['\n'] (Document.Reading.configMarker :: lines))

/-! ## Lines that lead on -/

/-- How far the reading of a block has come. -/
structure Progress where
  /-- What the block says so far. -/
  content : Content := {}
  /-- The open section. -/
  openSection : Option Section := none

/-- How far a reading has come. -/
def Reading.progress (reading : Reading) : Progress :=
  ⟨reading.block.content, reading.openSection⟩

/-- Whether lines belong to a block wherever they stand in it, and lead it from one progress to
another one. -/
def Leads (lines : List (List Char)) (before after : Progress) : Prop :=
  ∀ (reading : Document.Reading) (current : Reading) (index : Nat), current.progress = before →
    ∃ next : Reading, next.progress = after ∧
      ({ reading with mode := .config current } : Document.Reading).steps index lines =
        .ok { reading with mode := .config next }

namespace Leads

variable {before middle after : Progress} {line : List Char}

theorem nil (progress : Progress) : Leads [] progress progress :=
  fun _ current _ hcurrent => ⟨current, hcurrent, rfl⟩

theorem append {front back : List (List Char)} (hfront : Leads front before middle)
    (hback : Leads back middle after) : Leads (front ++ back) before after := by
  intro reading current index hcurrent
  obtain ⟨between, hbetween, hfirst⟩ := hfront reading current index hcurrent
  obtain ⟨next, hnext, hrest⟩ := hback reading between (index + front.length) hbetween
  refine ⟨next, hnext, ?_⟩
  rw [Document.Reading.steps_append, hfirst]
  exact hrest

/-- A line leads on as it does by itself. -/
theorem of_step? (h : ∀ (current : Reading) (index : Nat), current.progress = before →
      ∃ next, current.step? index line = some next ∧ next.progress = after) :
    Leads [line] before after := by
  intro reading current index hcurrent
  obtain ⟨next, hstep, hnext⟩ := h current index hcurrent
  refine ⟨next, hnext, ?_⟩
  simp [Document.Reading.steps, Document.Reading.step, hstep, bind, Except.bind]

/-- A blank line says nothing. -/
theorem blank (h : trim line = []) (progress : Progress) : Leads [line] progress progress :=
  of_step? fun current index hcurrent => ⟨current, by simp [Reading.step?, h], hcurrent⟩

end Leads

/-- Rows that lead from one progress to another one, whatever their indentation. -/
inductive Reads : List Row → Progress → Progress → Prop
  | nil (progress : Progress) : Reads [] progress progress
  | cons {row : Row} {rows : List Row} {before middle after : Progress} :
      (∀ line, row.IsWritten line → Leads [line] before middle) → Reads rows middle after →
      Reads (row :: rows) before after

theorem Reads.append {front back : List Row} {before middle after : Progress}
    (hfront : Reads front before middle) (hback : Reads back middle after) :
    Reads (front ++ back) before after := by
  induction hfront with
  | nil => exact hback
  | cons hrow _ ih => exact .cons hrow (ih hback)

/-- Wherever blank lines are put between rows, the lines lead where the rows do. -/
theorem Reads.leads {rows : List Row} {lines : List (List Char)} {before after : Progress}
    (h : Reads rows before after) (hlayout : IsLayout rows lines) : Leads lines before after := by
  induction hlayout generalizing before with
  | nil =>
    cases h
    exact .nil _
  | blank hblank _ _ ih => exact (Leads.blank hblank before).append (ih h)
  | row hrow _ ih =>
    cases h with
    | cons hline hrest => exact (hline _ hrow).append (ih hrest)

/-! ## Lines of a block -/

section Lines

variable {current : Reading} {index : Nat} {line : List Char}

/-- Where a block ends is no part of the progress. -/
theorem Reading.progress_endAt (current : Reading) (index : Nat) :
    ({ current with block := { current.block with endLine := index } } : Reading).progress =
      current.progress := rfl

/-- A line that is not indented is a scalar or opens a section, unless it ends the block. -/
theorem Reading.step?_of_not_isIndented (hne : trim line ≠ []) (hindented : isIndented line = false)
    (hend : isEnd (trim line) = false) :
    current.step? index line =
      let next := applyScalarLine current.block (trim line)
      some { next with block := { next.block with endLine := index } } := by
  simp [step?, hne, hindented, hend]

/-- An indented line belongs to the open section. -/
theorem Reading.step?_of_isIndented {kind : Section} (hopen : current.openSection = some kind)
    (hne : trim line ≠ []) (hindented : isIndented line = true)
    (hseparator : isSeparator (trim line) = false) :
    current.step? index line = some { current with
      block := { applySectionLine current.block (trim line) kind with endLine := index } } := by
  simp [step?, hne, hindented, hseparator, hopen]

/-- An indented row keeps its text. -/
theorem Row.IsWritten.of_indented {text : List Char} (h : (Row.mk true text).IsWritten line) :
    isIndented line = true ∧ trim line = trim text := by
  have hblank : isBlank ' ' = true ∧ isBlank '\t' = true := by decide
  rcases h with rfl | rfl
  · exact ⟨rfl, by rw [trim_cons_of_isBlank hblank.1, trim_cons_of_isBlank hblank.1]⟩
  · exact ⟨rfl, trim_cons_of_isBlank hblank.2 text⟩

end Lines

/-! ## Entries -/

namespace Entry

/-- Whether an entry can be written down. -/
def WellFormed : Entry → Prop
  | .collection name => name.toList ≠ [] ∧ IsPhrase name.toList
  | .baseUrl base => base.toList ≠ [] ∧ IsPhrase base.toList
  | .timeout n | .retries n => IsReadable n
  | .headers pairs => ∀ header ∈ pairs, IsKey header.1.toList ∧ IsPhrase header.2.toList
  | .assertions stated => ∀ assertion ∈ stated, assertion.WellFormed

/-- What a block says with an entry more. -/
def apply (content : Content) : Entry → Content
  | .collection name => { content with collection := some name }
  | .baseUrl base => { content with baseUrl := some base }
  | .timeout n => { content with timeout := some n }
  | .retries n => { content with retries := some n }
  | .headers pairs => { content with headers := Table.merge content.headers pairs }
  | .assertions stated => { content with assertions := content.assertions ++ stated }

/-- How far the reading has come after the first line of an entry. -/
def start (content : Content) : Entry → Progress
  | .headers _ => ⟨content, some .headers⟩
  | .assertions _ => ⟨content, some .assertions⟩
  | entry => ⟨apply content entry, none⟩

variable {entry : Entry}

/-- The word of an entry has neither blanks nor colons, and opens no other kind of line. -/
theorem word_spec (entry : Entry) :
    trim entry.word = entry.word ∧ ':' ∉ entry.word ∧ entry.word.all (!isBlank ·) ∧
      ∃ c more, entry.word = c :: more ∧ c ∉ [' ', '\t', '#', '@'] := by
  have hall : trim entry.word = entry.word ∧ ':' ∉ entry.word ∧ entry.word.all (!isBlank ·) ∧
      entry.word.head?.any (· ∉ [' ', '\t', '#', '@']) := by
    cases entry <;> exact of_decide_eq_true rfl
  obtain ⟨htrim, hcolon, hblank, hhead⟩ := hall
  refine ⟨htrim, hcolon, hblank, ?_⟩
  cases hword : entry.word with
  | nil => simp [hword] at hhead
  | cons c more => exact ⟨c, more, rfl, by simpa [hword] using hhead⟩

/-- The value of an entry has no blanks around it. -/
theorem WellFormed.trim_value (h : entry.WellFormed) : trim entry.value = entry.value := by
  cases entry with
  | collection name => exact h.2.trimmed
  | baseUrl base => exact h.2.trimmed
  | timeout n | retries n => exact trim_of_forall isBlank_of_mem_decimalInt
  | headers | assertions => rfl

theorem WellFormed.trim_tail (h : entry.WellFormed) : trim entry.tail = entry.value := by
  unfold tail
  split
  · next hempty => rw [List.isEmpty_iff.mp hempty]; rfl
  · rw [trim_cons_of_isBlank (by decide), h.trim_value]

/-- The first line of an entry has no blanks around it. -/
theorem WellFormed.trim_lead (h : entry.WellFormed) : trim entry.lead = entry.lead := by
  obtain ⟨htrim, -, -, c, more, hword, -⟩ := entry.word_spec
  have hend : trimEnd (':' :: entry.tail) = ':' :: entry.tail := by
    unfold tail
    split
    · decide
    · next hvalue =>
      have hne : entry.value ≠ [] := fun hnil => hvalue (List.isEmpty_iff.mpr hnil)
      exact trimEnd_append [':', ' '] hne (trim_eq_self_iff.mp h.trim_value).2
  rw [lead, trim_append_left (by simp [hword]) htrim, hend]

/-- The first line of an entry neither belongs to a section nor ends the block. -/
theorem WellFormed.lead_spec (h : entry.WellFormed) :
    trim entry.lead ≠ [] ∧ isIndented entry.lead = false ∧ isEnd (trim entry.lead) = false := by
  obtain ⟨-, -, hblank, c, more, hword, hc⟩ := entry.word_spec
  have hcons : entry.lead = c :: (more ++ ':' :: entry.tail) := by
    rw [lead, hword, List.cons_append]
  simp only [List.mem_cons, List.not_mem_nil, or_false, not_or] at hc
  have hmethod : ScriptLine.methodLine? entry.lead = none := by
    -- The colon belongs to the first word, and no method has one.
    apply ScriptLine.methodLine?_of_mark (c := ':') (by decide)
    have hfirst : ∀ d ∈ entry.word ++ [':'], (!isBlank d) = true := by
      intro d hd
      rcases List.mem_append.mp hd with hd | hd
      · exact List.all_eq_true.mp hblank d hd
      · rw [List.mem_singleton.mp hd]
        decide
    have hsplit : entry.lead = (entry.word ++ [':']) ++ entry.tail := by simp [lead]
    rw [hsplit, List.takeWhile_append_of_pos hfirst]
    simp
  rw [h.trim_lead]
  refine ⟨by simp [hcons], ?_, ?_⟩
  · simp [hcons, isIndented, List.isPrefixOf, Ne.symm hc.1, Ne.symm hc.2.1]
  · rw [isEnd, hmethod]
    simp [hcons, isSeparator, blockSeparator, List.isPrefixOf, Ne.symm hc.2.2.1,
      Ne.symm hc.2.2.2]

/-- The first line of an entry says its scalar, or opens its section. -/
theorem WellFormed.progress_applyScalarLine (h : entry.WellFormed) (block : ConfigBlock) :
    (applyScalarLine block entry.lead).progress = start block.content entry := by
  obtain ⟨htrim, hcolon, -⟩ := entry.word_spec
  have hcut : (cut? ':' entry.lead).getD (entry.lead, []) = (entry.word, entry.tail) := by
    rw [lead, cut?_append hcolon]
    rfl
  have hnonEmpty : ∀ text : String, text.toList ≠ [] → nonEmpty? text.toList = some text := by
    intro text hne
    simp [nonEmpty?, hne]
  unfold applyScalarLine
  simp only [hcut, htrim, h.trim_tail]
  cases entry with
  | collection name =>
    change Progress.mk { block.content with collection := nonEmpty? name.toList } none = _
    rw [hnonEmpty name h.1]
    rfl
  | baseUrl base =>
    change Progress.mk { block.content with baseUrl := nonEmpty? base.toList } none = _
    rw [hnonEmpty base h.1]
    rfl
  | timeout n =>
    change Progress.mk { block.content with timeout := readInt? (decimalInt n) } none = _
    rw [readInt?_decimalInt h]
    rfl
  | retries n =>
    change Progress.mk { block.content with retries := readInt? (decimalInt n) } none = _
    rw [readInt?_decimalInt h]
    rfl
  | headers pairs => rfl
  | assertions stated => rfl

theorem WellFormed.leads_lead (h : entry.WellFormed) (progress : Progress) :
    Leads [entry.lead] progress (start progress.content entry) := by
  obtain ⟨hne, hindented, hend⟩ := h.lead_spec
  refine Leads.of_step? fun current index hcurrent =>
    ⟨_, Reading.step?_of_not_isIndented hne hindented hend, ?_⟩
  have hprogress := h.progress_applyScalarLine current.block
  rw [Reading.progress_endAt, h.trim_lead, hprogress, ← hcurrent]
  rfl

/-- A key and the colon behind it do not start like a block separator. -/
theorem isSeparator_of_isKey {key : List Char} (h : IsKey key) (rest : List Char) :
    isSeparator (key ++ ':' :: rest) = false := by
  rw [Bool.eq_false_iff]
  intro hseparator
  have hmark : blockSeparator <+: key ++ ':' :: rest := List.isPrefixOf_iff_prefix.mp hseparator
  have hcolon : ':' ∉ blockSeparator := by decide
  have hkey : key ++ [':'] <+: key ++ ':' :: rest := ⟨rest, by simp⟩
  rcases List.prefix_or_prefix_of_prefix hmark hkey with hshort | hlong
  · rcases List.prefix_concat_iff.mp hshort with heq | hprefix
    · exact hcolon (heq ▸ by simp)
    · exact h.no_separator hprefix
  · exact hcolon (hlong.mem (by simp))

/-- A line of a section sets its header. -/
theorem leads_header {key value : String} (hkey : IsKey key.toList) (hvalue : IsPhrase value.toList)
    {line : List Char}
    (hline : (Row.mk true (key.toList ++ ':' :: ' ' :: value.toList)).IsWritten line)
    (content : Content) :
    Leads [line] ⟨content, some .headers⟩
      ⟨{ content with headers := Table.set content.headers key value }, some .headers⟩ := by
  obtain ⟨hindented, htrim⟩ := hline.of_indented
  obtain ⟨rest, hrest, hsaid⟩ : ∃ rest, trim line = key.toList ++ ':' :: rest ∧
      trim rest = value.toList := by
    rw [htrim, trim_append_left hkey.ne_nil hkey.phrase.trimmed]
    by_cases hempty : value.toList = []
    · exact ⟨[], by rw [hempty]; rfl, by rw [hempty]; rfl⟩
    · refine ⟨' ' :: value.toList, ?_, ?_⟩
      · exact congrArg _ (trimEnd_append [':', ' '] hempty (trim_eq_self_iff.mp hvalue.trimmed).2)
      · rw [trim_cons_of_isBlank (by decide), hvalue.trimmed]
  have hne : trim line ≠ [] := by simp [hrest]
  have hseparator : isSeparator (trim line) = false := hrest ▸ isSeparator_of_isKey hkey rest
  refine Leads.of_step? fun current index hcurrent =>
    ⟨_, Reading.step?_of_isIndented (congrArg Progress.openSection hcurrent) hne hindented
      hseparator, ?_⟩
  have hkeyEmpty : key.toList.isEmpty = false := by simpa using hkey.ne_nil
  have hset : applySectionLine current.block (trim line) .headers =
      { current.block with headers := Table.set current.block.headers key value } := by
    simp only [applySectionLine, hrest, cut?_append hkey.no_colon, hkey.phrase.trimmed, hkeyEmpty,
      hsaid, String.ofList_toList, Bool.false_eq_true, if_false]
  obtain ⟨hcontent, hopen⟩ := Progress.mk.inj hcurrent
  rw [hset, Reading.progress, hopen, ← hcontent]
  rfl

/-- A line of a section adds its assertion. -/
theorem leads_assertion {assertion : Assertion} (h : assertion.WellFormed) {line : List Char}
    (hline : (Row.mk true assertion.label.toList).IsWritten line) (content : Content) :
    Leads [line] ⟨content, some .assertions⟩
      ⟨{ content with assertions := content.assertions ++ [assertion] }, some .assertions⟩ := by
  obtain ⟨hindented, htrim⟩ := hline.of_indented
  rw [h.trim_label] at htrim
  have hne : trim line ≠ [] := by
    intro hnil
    have hread := h.ofChars?_label
    rw [← htrim, hnil] at hread
    cases hread
  have hseparator : isSeparator (trim line) = false := by
    rw [Bool.eq_false_iff, htrim]
    intro hmark
    have hhash : ['#'] <+: blockSeparator := ⟨['#', '#'], rfl⟩
    exact h.not_hash_label (hhash.trans (List.isPrefixOf_iff_prefix.mp hmark))
  refine Leads.of_step? fun current index hcurrent =>
    ⟨_, Reading.step?_of_isIndented (congrArg Progress.openSection hcurrent) hne hindented
      hseparator, ?_⟩
  have hadd : applySectionLine current.block (trim line) .assertions =
      { current.block with assertions := current.block.assertions ++ [assertion] } := by
    simp only [applySectionLine, htrim, h.ofChars?_label]
  obtain ⟨hcontent, hopen⟩ := Progress.mk.inj hcurrent
  rw [hadd, Reading.progress, hopen, ← hcontent]
  rfl

theorem reads_headers {pairs : Headers} (h : (headers pairs).WellFormed) (content : Content) :
    Reads ((headers pairs).items.map fun text => ⟨true, text⟩) ⟨content, some .headers⟩
      ⟨apply content (headers pairs), some .headers⟩ := by
  induction pairs generalizing content with
  | nil => exact .nil _
  | cons header rest ih =>
    obtain ⟨hheader, hrest⟩ := List.forall_mem_cons.mp h
    exact .cons (fun line hline => leads_header hheader.1 hheader.2 hline content) (ih hrest _)

theorem reads_assertions {stated : List Assertion} (h : (assertions stated).WellFormed)
    (content : Content) :
    Reads ((assertions stated).items.map fun text => ⟨true, text⟩) ⟨content, some .assertions⟩
      ⟨apply content (assertions stated), some .assertions⟩ := by
  induction stated generalizing content with
  | nil =>
    simp only [apply, List.append_nil]
    exact .nil _
  | cons assertion rest ih =>
    obtain ⟨hassertion, hrest⟩ := List.forall_mem_cons.mp h
    have hmore := ih hrest { content with assertions := content.assertions ++ [assertion] }
    simp only [apply, List.append_assoc, List.singleton_append] at hmore
    exact .cons (fun line hline => leads_assertion hassertion hline content) hmore

/-- Reading the rows of an entry adds what it says. -/
theorem WellFormed.reads_rows (h : entry.WellFormed) (progress : Progress) :
    ∃ openSection, Reads entry.rows progress ⟨apply progress.content entry, openSection⟩ := by
  have hlead : ∀ line, (Row.mk false entry.lead).IsWritten line →
      Leads [line] progress (start progress.content entry) := by
    rintro line rfl
    exact h.leads_lead progress
  cases entry with
  | collection | baseUrl | timeout | retries => exact ⟨none, .cons hlead (.nil _)⟩
  | headers pairs => exact ⟨some .headers, .cons hlead (reads_headers h progress.content)⟩
  | assertions stated =>
    exact ⟨some .assertions, .cons hlead (reads_assertions h progress.content)⟩

/-- Reading the rows of entries adds what they say, one after the other. -/
theorem reads_flatMap_rows {entries : List Entry} (h : ∀ entry ∈ entries, entry.WellFormed)
    (progress : Progress) : ∃ openSection,
      Reads (entries.flatMap rows) progress
        ⟨entries.foldl apply progress.content, openSection⟩ := by
  induction entries generalizing progress with
  | nil => exact ⟨progress.openSection, .nil _⟩
  | cons entry rest ih =>
    obtain ⟨hentry, hrest⟩ := List.forall_mem_cons.mp h
    obtain ⟨middle, hrows⟩ := hentry.reads_rows progress
    obtain ⟨openSection, hmore⟩ := ih hrest ⟨apply progress.content entry, middle⟩
    exact ⟨openSection, hrows.append hmore⟩

/-- What says nothing adds nothing. -/
theorem apply_of_not_saysSomething (h : entry.saysSomething = false) (content : Content) :
    apply content entry = content := by
  cases entry with
  | collection | baseUrl | timeout | retries => cases h
  | headers pairs =>
    have hnil : pairs = [] := by simpa [saysSomething] using h
    rw [hnil]
    rfl
  | assertions stated =>
    have hnil : stated = [] := by simpa [saysSomething] using h
    simp [hnil, apply]

theorem foldl_apply_filter (entries : List Entry) (content : Content) :
    (entries.filter saysSomething).foldl apply content = entries.foldl apply content := by
  induction entries generalizing content with
  | nil => rfl
  | cons entry rest ih =>
    cases hsaid : entry.saysSomething with
    | true => rw [List.filter_cons_of_pos hsaid, List.foldl_cons, ih, List.foldl_cons]
    | false =>
      rw [List.filter_cons_of_neg (by simp [hsaid]), ih, List.foldl_cons,
        apply_of_not_saysSomething hsaid]

end Entry

/-! ## Entries in any order -/

namespace Content

variable {content : Content}

/-- The entries are the things that there are to be written down. -/
theorem mem_entries {entry : Entry} (h : entry ∈ content.entries) :
    match entry with
    | .collection name => content.collection = some name
    | .baseUrl base => content.baseUrl = some base
    | .timeout n => content.timeout = some n
    | .retries n => content.retries = some n
    | .headers pairs => content.headers = pairs
    | .assertions stated => content.assertions = stated := by
  unfold Content.entries at h
  cases entry <;> simp at h <;> simp [h]

theorem WellFormed.forall_entries (h : content.WellFormed) :
    ∀ entry ∈ content.entries, entry.WellFormed := by
  intro entry hentry
  have hmem := mem_entries hentry
  cases entry with
  | collection name => exact h.collection name hmem
  | baseUrl base => exact h.baseUrl base hmem
  | timeout n => exact h.timeout n hmem
  | retries n => exact h.retries n hmem
  | headers pairs => exact hmem ▸ h.headers
  | assertions stated => exact hmem ▸ h.assertions

/-- It does not matter which of two entries comes first: each kind of entry is there once, and sets
something of its own. -/
theorem apply_comm {first second : Entry} (hfirst : first ∈ content.entries)
    (hsecond : second ∈ content.entries) (said : Content) :
    Entry.apply (Entry.apply said first) second = Entry.apply (Entry.apply said second) first := by
  have hone := mem_entries hfirst
  have htwo := mem_entries hsecond
  cases first <;> cases second <;> first
    | rfl
    | (cases hone.symm.trans htwo; rfl)

/-- The entries say what there is to be written down. -/
theorem foldl_entries (h : (Table.names content.headers).Nodup) :
    content.entries.foldl Entry.apply {} = content := by
  have hheaders : Table.merge [] content.headers = content.headers := Table.ofPairs_of_nodup h
  obtain ⟨collection, baseUrl, timeout, retries, headers, assertions⟩ := content
  rw [Content.entries, List.foldl_append, Entry.foldl_apply_filter]
  cases collection <;> cases baseUrl <;> cases timeout <;> cases retries <;>
    simp_all [Entry.apply]

/-- In whatever order the entries are written, they say what there is to be written down. -/
theorem foldl_of_perm (h : (Table.names content.headers).Nodup) {entries : List Entry}
    (hentries : (entries.filter Entry.saysSomething).Perm content.entries) :
    entries.foldl Entry.apply {} = content := by
  rw [← Entry.foldl_apply_filter, ← foldl_entries h]
  refine hentries.foldl_eq' (fun first hfirst second hsecond said => ?_) ({} : Content)
  exact apply_comm (hentries.subset hfirst) (hentries.subset hsecond) said

end Content

end ConfigBlock

end RequestScript
