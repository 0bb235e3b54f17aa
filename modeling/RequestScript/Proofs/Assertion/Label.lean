import RequestScript.Proofs.Assertion.WellFormed

/-!
# The spelling of assertions

A well-formed assertion is spelled as words with one blank between them. Each part of the spelling
is read back as it was.
-/

namespace RequestScript

open Text

/-! ## Words -/

/-- A known target is named by its word. -/
theorem Target.ofWord_word {target : Target} (h : target.isKnown = true) :
    ofWord target.word = target := by
  cases target <;> first | rfl | cases h

/-- The word for a known target is a part of a word before its first dot, and opens no directive. -/
theorem Target.word_chars {target : Target} (h : target.isKnown = true) :
    target.word.toList ≠ [] ∧ ∀ c ∈ target.word.toList, isBlank c = false ∧ c ≠ '.' ∧ c ≠ '@' := by
  have hne : target.word.toList ≠ [] := by
    cases target <;> first | decide | cases h
  have hall : target.word.toList.all (fun c => !isBlank c && (c != '.' && c != '@')) = true := by
    cases target <;> first | decide | cases h
  exact ⟨hne, fun c hc => by simpa using List.all_eq_true.mp hall c hc⟩

/-- A known operator is named by its word. -/
theorem Operator.ofWord_word {operator : Operator}
    (h : operator.isUnary = true ∨ operator.isBinary = true) : ofWord operator.word = operator := by
  cases operator <;> first | rfl | (rcases h with h | h <;> cases h)

theorem Operator.word_chars {operator : Operator}
    (h : operator.isUnary = true ∨ operator.isBinary = true) :
    operator.word.toList ≠ [] ∧ ∀ c ∈ operator.word.toList, isBlank c = false := by
  have hne : operator.word.toList ≠ [] := by
    cases operator <;> first | decide | (rcases h with h | h <;> cases h)
  have hall : operator.word.toList.all (!isBlank ·) = true := by
    cases operator <;> first | decide | (rcases h with h | h <;> cases h)
  exact ⟨hne, fun c hc => by simpa using List.all_eq_true.mp hall c hc⟩

namespace Assertion

/-- A word ends at the blank behind it. -/
theorem nextWord_append {word : List Char} (hword : ∀ c ∈ word, isBlank c = false)
    (rest : List Char) : nextWord (word ++ ' ' :: rest) = (word, trimStart rest) := by
  have hblank : isBlank ' ' = true := by decide
  have hkept : ∀ c ∈ word, (!isBlank c) = true := fun c hc => by rw [hword c hc]; rfl
  have htake : (word ++ ' ' :: rest).takeWhile (!isBlank ·) = word := by
    rw [List.takeWhile_append_of_pos hkept, List.takeWhile_cons_of_neg (by simp [hblank]),
      List.append_nil]
  have hdrop : (word ++ ' ' :: rest).dropWhile (!isBlank ·) = ' ' :: rest := by
    rw [List.dropWhile_append_of_pos hkept, List.dropWhile_cons_of_neg (by simp [hblank])]
  rw [nextWord, htake, hdrop, trimStart, List.dropWhile_cons_of_pos hblank, ← trimStart]

/-- A text without blanks is one word. -/
theorem nextWord_eq_self {word : List Char} (hword : ∀ c ∈ word, isBlank c = false) :
    nextWord word = (word, []) := by
  have hkept : ∀ c ∈ word, (!isBlank c) = true := fun c hc => by rw [hword c hc]; rfl
  rw [nextWord, List.takeWhile_eq_self_iff.mpr hkept, List.dropWhile_eq_nil_iff.mpr hkept]
  rfl

/-! ## Labels -/

/-- The first word of a label: the target, and the path behind a dot. -/
def subjectWord (assertion : Assertion) : List Char :=
  assertion.target.word.toList ++ assertion.path.elim [] fun path => '.' :: path.toList

/-- The rest of a label: the operator, and the expected text behind a blank. -/
def predicate (assertion : Assertion) : List Char :=
  assertion.operator.word.toList ++ assertion.expected.elim [] fun text => ' ' :: text.toList

namespace WellFormed

variable {assertion : Assertion}

theorem toList_label (h : assertion.WellFormed) :
    assertion.label.toList = assertion.subjectWord ++ ' ' :: assertion.predicate := by
  obtain ⟨target, operator, path, expected⟩ := assertion
  have hpath : ∀ text ∈ path, text.isEmpty = false := fun text htext => by
    simpa using (h.path text htext).1
  cases path with
  | none => cases expected <;> simp [label, subjectWord, predicate]
  | some path => cases expected <;> simp [label, subjectWord, predicate, hpath path rfl]

/-- The first word of a label has no blanks, and is no directive. -/
theorem subjectWord_chars (h : assertion.WellFormed) :
    (∀ c ∈ assertion.subjectWord, isBlank c = false) ∧
      ∃ first rest, assertion.subjectWord = first :: rest ∧ first ≠ '@' := by
  obtain ⟨hne, hword⟩ := Target.word_chars h.target
  constructor
  · intro c hc
    rcases List.mem_append.mp hc with hc | hc
    · exact (hword c hc).1
    · cases hpath : assertion.path with
      | none => simp [hpath] at hc
      | some path =>
        rw [hpath] at hc
        rcases List.mem_cons.mp hc with rfl | hc
        · decide
        · exact (h.path path hpath).2 c hc
  · obtain ⟨first, rest, hcons⟩ := List.exists_cons_of_ne_nil hne
    rw [subjectWord, hcons]
    exact ⟨first, _, rfl, (hword first (by simp [hcons])).2.2⟩

/-- The first word of a label stands for the target and the path. -/
theorem subject_subjectWord (h : assertion.WellFormed) :
    subject assertion.subjectWord = (assertion.target, assertion.path) := by
  obtain ⟨_, hword⟩ := Target.word_chars h.target
  have hdot : '.' ∉ assertion.target.word.toList := fun hmem => (hword '.' hmem).2.1 rfl
  cases hpath : assertion.path with
  | none =>
    have hcut : cut? '.' assertion.target.word.toList = none := cut?_eq_none hdot
    simp [subject, subjectWord, hpath, hcut, Target.ofWord_word h.target]
  | some path =>
    have hne : path.toList ≠ [] := by simpa using (h.path path hpath).1
    simp [subject, subjectWord, hpath, cut?_append hdot, hne, Target.ofWord_word h.target]

/-- The rest of a label is trimmed, and its words are the operator and the expected text. -/
theorem nextWord_predicate (h : assertion.WellFormed) :
    nextWord assertion.predicate =
      (assertion.operator.word.toList, assertion.expected.elim [] String.toList) := by
  obtain ⟨_, hword⟩ := Operator.word_chars h.operator
  cases hexpected : assertion.expected with
  | none => simp [predicate, hexpected, nextWord_eq_self hword]
  | some text =>
    have htrimmed := trimmed_eq_self_iff.mp (h.expected text hexpected).1.trimmed_eq
    simp [predicate, hexpected, nextWord_append hword, (trim_eq_self_iff.mp htrimmed).1]

theorem trim_predicate (h : assertion.WellFormed) :
    trim assertion.predicate = assertion.predicate := by
  obtain ⟨hne, hword⟩ := Operator.word_chars h.operator
  have hoperator := trim_of_forall hword
  cases hexpected : assertion.expected with
  | none => simp [predicate, hexpected, hoperator]
  | some text =>
    obtain ⟨hstripped, -⟩ := h.expected text hexpected
    have hnonempty : text.toList ≠ [] := by simpa using hstripped.ne_empty
    have hend := (trim_eq_self_iff.mp (trimmed_eq_self_iff.mp hstripped.trimmed_eq)).2
    have hblank := trimEnd_append [' '] hnonempty hend
    rw [predicate, hexpected, trim_append_left hne hoperator]
    exact congrArg _ hblank

/-- A label has no blanks around it. -/
theorem trim_label (h : assertion.WellFormed) :
    trim assertion.label.toList = assertion.label.toList := by
  obtain ⟨hsubject, first, rest, hfirst, -⟩ := h.subjectWord_chars
  obtain ⟨hne, -⟩ := Operator.word_chars h.operator
  have hpredicate : assertion.predicate ≠ [] := List.append_ne_nil_of_left_ne_nil hne _
  have hend := trimEnd_append [' '] hpredicate (trim_eq_self_iff.mp h.trim_predicate).2
  rw [h.toList_label, trim_append_left (by simp [hfirst]) (trim_of_forall hsubject)]
  exact congrArg _ hend

/-- A label stands on one line. -/
theorem lineFeed_not_mem_label (h : assertion.WellFormed) : '\n' ∉ assertion.label.toList := by
  have hfeed : ∀ cs : List Char, (∀ c ∈ cs, isBlank c = false) → '\n' ∉ cs := fun cs hcs hmem =>
    absurd (hcs '\n' hmem) (by decide)
  obtain ⟨hsubject, -⟩ := h.subjectWord_chars
  obtain ⟨-, hword⟩ := Operator.word_chars h.operator
  rw [h.toList_label, predicate]
  simp only [List.mem_append, List.mem_cons, not_or]
  refine ⟨hfeed _ hsubject, by decide, hfeed _ hword, ?_⟩
  cases hexpected : assertion.expected with
  | none => exact List.not_mem_nil
  | some text =>
    simp only [Option.elim_some, List.mem_cons, not_or]
    exact ⟨by decide, (h.expected text hexpected).2⟩

/-- No label starts like a comment or a block separator. -/
theorem not_hash_label (h : assertion.WellFormed) : ¬['#'] <+: assertion.label.toList := by
  rw [h.toList_label, subjectWord]
  have hknown := h.target
  cases htarget : assertion.target with
  | unknown word => simp [htarget, Target.isKnown] at hknown
  | status | body | header | duration | size | cookie =>
    exact fun hprefix => absurd (List.cons_prefix_cons.mp hprefix).1 (by decide)

/-- A well-formed assertion is what its label spells. -/
theorem ofChars?_label (h : assertion.WellFormed) :
    ofChars? assertion.label.toList = some assertion := by
  obtain ⟨hsubject, first, rest, hfirst, hat⟩ := h.subjectWord_chars
  have htrimmed := trim_eq_self_iff.mp h.trim_predicate
  -- The label has no blanks around it, and does not begin as a directive does.
  have htrim := h.trim_label
  have hdirective : dropStart? "@assert".toList assertion.label.toList = none := by
    rw [h.toList_label, hfirst]
    simp [dropStart?, hat.symm]
  have hfirstWord : nextWord assertion.label.toList =
      (assertion.subjectWord, assertion.predicate) := by
    rw [h.toList_label, nextWord_append hsubject, htrimmed.1]
  unfold ofChars?
  simp only [htrim, hdirective, Option.map_none, Option.getD_none, hfirstWord,
    h.nextWord_predicate, h.subject_subjectWord, String.ofList_toList,
    Operator.ofWord_word h.operator, h.target, Bool.not_true, Bool.false_eq_true, if_false]
  obtain ⟨target, operator, path, expected⟩ := assertion
  have hsome := h.isSome_expected
  cases expected with
  | none =>
    have hunary : operator.isUnary = true := by
      rcases h.operator with hunary | hbinary
      · exact hunary
      · exact absurd (hsome.trans hbinary) (by simp)
    simp [hunary]
  | some text =>
    obtain ⟨hstripped, hline⟩ := h.expected text rfl
    have hbinary : operator.isBinary = true := hsome.symm
    have hnonempty : text.toList ≠ [] := by simpa using hstripped.ne_empty
    have htext := trimmed_eq_self_iff.mp hstripped.trimmed_eq
    simp [hbinary, hnonempty, hline, htext]

end WellFormed

/-- **Expressions and labels.** Whatever an expression spells is well formed, and a well-formed
assertion is what its label spells. -/
theorem label_inverse :
    (∀ expression : String, ∀ assertion ∈ parse? expression, assertion.WellFormed) ∧
      ∀ assertion : Assertion, assertion.WellFormed → parse? assertion.label = some assertion :=
  ⟨fun _ _ hspelled => wellFormed_ofChars? hspelled, fun _ hwell => hwell.ofChars?_label⟩

/-- An assertion whose path and expected text look like other parts of one. -/
def mimicking : Assertion where
  target := .header
  operator := .notEqual
  path := some ".!=.exists"
  expected := some "== body.id\tisArray"

theorem label_inverse_mimicking :
    mimicking.WellFormed ∧
      parse? "header..!=.exists != == body.id\tisArray" = some mimicking := by
  have hwell : mimicking.WellFormed :=
    label_inverse.1 "@assert header..!=.exists  !=\n== body.id\tisArray " mimicking
      (of_decide_eq_true rfl)
  have hlabel : mimicking.label = "header..!=.exists != == body.id\tisArray" :=
    of_decide_eq_true rfl
  exact ⟨hwell, hlabel ▸ label_inverse.2 mimicking hwell⟩

end Assertion

end RequestScript
