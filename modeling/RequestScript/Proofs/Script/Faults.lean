import RequestScript.Proofs.Script.Line
import RequestScript.Proofs.Script.Step

/-!
# Scripts that cannot be read

A script cannot be read where a directive has a numeral with too many digits, and only there:
`@retry` and `@timeout` read the numerals of their arguments, and no other line of a script fails.
-/

namespace RequestScript

open Text

namespace Directive

/-- The numerals that a directive `@retry` reads of its argument. -/
def retryNumerals (cs : List Char) : List (List Char) :=
  let count := cs.takeWhile isDigit
  if count.isEmpty then []
  else
    let delay := dropSpacedWord? "delay".toList (cs.drop count.length)
    count :: (delay.map (·.takeWhile isDigit)).toList

/-- The numerals that a directive reads of its argument. -/
def numerals (name : String) (argument : List Char) : List (List Char) :=
  match name with
  | "retry" => retryNumerals argument
  | "timeout" => [argument.takeWhile isDigit]
  | _ => []

theorem number_eq_error_iff {digits : List Char} {fault : Fault} :
    number digits = .error fault ↔ fault = .numeralTooLong ∧ digitLimit < digits.length := by
  unfold number readNat?
  split <;> simp_all [eq_comm]

theorem exists_number_eq_ok {digits : List Char} (h : digits.length ≤ digitLimit) :
    ∃ n, number digits = .ok n := by
  simp [number, readNat?, h]

theorem readTimeout_eq_error_iff {cs : List Char} {fault : Fault} :
    readTimeout cs = .error fault ↔
      fault = .numeralTooLong ∧ digitLimit < (cs.takeWhile isDigit).length := by
  unfold readTimeout
  dsimp only
  split
  · next hempty => simp [List.isEmpty_iff.mp hempty]
  · simp [bind_eq_error_iff, number_eq_error_iff, pure, Except.pure]

theorem readRetry_eq_error_iff {cs : List Char} {fault : Fault} :
    readRetry cs = .error fault ↔
      fault = .numeralTooLong ∧ ∃ numeral ∈ retryNumerals cs, digitLimit < numeral.length := by
  unfold readRetry retryNumerals
  dsimp only
  split
  · simp
  · generalize cs.takeWhile isDigit = count
    cases dropSpacedWord? "delay".toList (cs.drop count.length) with
    | none => simp [bind_eq_error_iff, number_eq_error_iff, pure, Except.pure]
    | some rest =>
      simp only [Option.map_some, Option.toList_some]
      cases rest.takeWhile isDigit with
      | nil => simp [bind_eq_error_iff, number_eq_error_iff, pure, Except.pure]
      | cons c more =>
        -- The delay is read first, so that the count only matters where the delay can be read.
        by_cases hlong : digitLimit < (c :: more).length
        · have hdelay : number (c :: more) = .error .numeralTooLong :=
            number_eq_error_iff.mpr ⟨rfl, hlong⟩
          have hexists : ∃ numeral ∈ [count, c :: more], digitLimit < numeral.length :=
            ⟨c :: more, by simp, hlong⟩
          simp only [hdelay, hexists, and_true]
          exact ⟨fun h => (Except.error.inj h).symm, fun h => h ▸ rfl⟩
        · obtain ⟨n, hdelay⟩ := exists_number_eq_ok (Nat.le_of_not_lt hlong)
          have hcount : (∃ numeral ∈ [count, c :: more], digitLimit < numeral.length) ↔
              digitLimit < count.length := by
            simp only [List.mem_cons, List.not_mem_nil, or_false, exists_eq_or_imp,
              exists_eq_left, hlong]
          rw [hcount, ← number_eq_error_iff]
          cases number count <;> simp [hdelay, bind, Except.bind, Except.map, pure, Except.pure]

/-- A directive cannot be read where one of its numerals has too many digits, and only there. -/
theorem read_eq_error_iff {name : String} {argument : List Char} {fault : Fault} :
    read name argument = .error fault ↔ fault = .numeralTooLong ∧
      ∃ numeral ∈ numerals name argument, digitLimit < numeral.length := by
  by_cases hretry : name = "retry"
  · subst hretry
    exact readRetry_eq_error_iff
  by_cases htimeout : name = "timeout"
  · subst htimeout
    simp only [numerals, List.mem_singleton, exists_eq_left]
    exact readTimeout_eq_error_iff
  have hnone : numerals name argument = [] := by
    unfold numerals
    split <;> simp_all
  have hok : ∀ fault, read name argument ≠ .error fault := by
    unfold read
    split <;> simp_all
  simp [hnone, hok]

end Directive

/-- A line, without blanks around it, is a directive with a numeral of too many digits. -/
def ScriptLine.IsOverlong (cs : List Char) : Prop :=
  ∃ name argument, Directive.split? cs = some (name, argument) ∧
    ∃ numeral ∈ Directive.numerals (String.ofList name) argument, digitLimit < numeral.length

namespace ScriptLine

theorem isOverlong_iff {cs name argument : List Char}
    (hsplit : Directive.split? cs = some (name, argument)) :
    IsOverlong cs ↔ ∃ numeral ∈ Directive.numerals (String.ofList name) argument,
      digitLimit < numeral.length := by
  constructor
  · rintro ⟨name', argument', hsplit', hlong⟩
    obtain ⟨rfl, rfl⟩ := Prod.mk.inj (Option.some.inj (hsplit.symm.trans hsplit'))
    exact hlong
  · exact fun hlong => ⟨name, argument, hsplit, hlong⟩

theorem IsOverlong.isPrefix {cs : List Char} (h : IsOverlong cs) : ['@'] <+: cs := by
  obtain ⟨name, argument, hsplit, _⟩ := h
  unfold Directive.split? at hsplit
  split at hsplit
  · exact ⟨_, rfl⟩
  · cases hsplit

theorem not_isOverlong_nil : ¬IsOverlong [] := by
  intro hlong
  exact absurd hlong.isPrefix (by decide)

theorem not_isOverlong_of_head {c : Char} {mark cs : List Char} (hc : c ≠ '@')
    (hmark : c :: mark <+: cs) : ¬IsOverlong cs := by
  intro hlong
  obtain ⟨rest, rfl⟩ := hlong.isPrefix
  exact hc (List.cons_prefix_cons.mp hmark).1

/-- The only lines that cannot be read are directives with a numeral of too many digits. -/
theorem read_eq_error_iff {cs : List Char} {fault : Fault} :
    read cs = .error fault ↔ fault = .numeralTooLong ∧ IsOverlong cs := by
  unfold read
  split
  · next hcomment =>
    have hcs : ¬IsOverlong cs := by
      intro hlong
      obtain ⟨rest, rfl⟩ := hlong.isPrefix
      simp [isComment] at hcomment
    simp [hcs]
  split
  · next name argument hsplit =>
    simp [bind_eq_error_iff, Directive.read_eq_error_iff, isOverlong_iff hsplit, pure,
      Except.pure]
  · next hsplit =>
    have hcs : ¬IsOverlong cs := by simp [IsOverlong, hsplit]
    repeat' split
    all_goals simp [hcs]

end ScriptLine

/-- A line that starts with an at sign ends a configuration block, unless it is indented and
belongs to a section. -/
theorem ConfigBlock.Reading.step?_eq_none_iff {current : ConfigBlock.Reading} {index : Nat}
    {text : List Char} (hat : ['@'] <+: trim text) :
    current.step? index text = none ↔
      ¬(isIndented text ∧ current.openSection.isSome) := by
  obtain ⟨rest, hrest⟩ := hat
  have hempty : (trim text).isEmpty = false := by rw [← hrest]; rfl
  have hseparator : isSeparator (trim text) = false := by rw [← hrest]; rfl
  have hend : isEnd (trim text) = true := by rw [← hrest]; rfl
  unfold step?
  cases current.openSection <;> by_cases hindented : isIndented text <;>
    simp [hempty, hseparator, hend, hindented]

namespace Document.Reading

variable {reading next : Reading} {index : Nat} {text : List Char} {fault : Fault}

/-- A line that starts with an at sign is read as a directive, unless it belongs to a doc comment
or to a section of a configuration block. -/
def TakesDirective (reading : Reading) (text : List Char) : Prop :=
  match reading.mode with
  | .doc _ => False
  | .config current => ¬(ConfigBlock.isIndented text ∧ current.openSection.isSome)
  | .outside | .head _ | .body _ => True

theorem headLine_eq_error_iff {draft : Draft} {cs : List Char} :
    reading.headLine draft cs = .error fault ↔
      fault = .numeralTooLong ∧ ScriptLine.IsOverlong cs := by
  unfold headLine
  split
  · next hempty =>
    have hcs : ¬ScriptLine.IsOverlong cs := by
      rw [List.isEmpty_iff.mp hempty]
      exact ScriptLine.not_isOverlong_nil
    simp [hcs]
  · simp [bind_eq_error_iff, ScriptLine.read_eq_error_iff, pure, Except.pure]

theorem unmarkedLine_eq_error_iff :
    reading.unmarkedLine index text = .error fault ↔
      fault = .numeralTooLong ∧ ScriptLine.IsOverlong (trim text) := by
  unfold unmarkedLine
  split
  · exact headLine_eq_error_iff
  · split
    · exact headLine_eq_error_iff
    · next hat =>
      have htext : ¬ScriptLine.IsOverlong (trim text) := fun hlong =>
        hat (List.isPrefixOf_iff_prefix.mpr hlong.isPrefix)
      simp [htext]
  · split
    · next hempty =>
      rw [List.isEmpty_iff] at hempty
      simp [hempty, ScriptLine.not_isOverlong_nil]
    · exact headLine_eq_error_iff

/-- Outside doc comments a line cannot be read where it is a directive with a numeral of too many
digits, and only there. -/
theorem line_eq_error_iff (hdoc : ∀ draft, reading.mode ≠ .doc draft) :
    reading.line index text = .error fault ↔
      fault = .numeralTooLong ∧ ScriptLine.IsOverlong (trim text) := by
  rw [line_eq hdoc]
  split
  · next hmarker =>
    have hmark : ¬ScriptLine.IsOverlong (trim text) := by
      have hsplit : Directive.split? configMarker = some ("config".toList, []) := by decide
      rw [hmarker, ScriptLine.isOverlong_iff hsplit]
      simp [Directive.numerals]
    simp [hmark]
  split
  · next hstart =>
    rw [Bool.and_eq_true, List.isPrefixOf_iff_prefix] at hstart
    simp [ScriptLine.not_isOverlong_of_head (by decide : '/' ≠ '@') hstart.2]
  split
  · next hseparator =>
    rw [isSeparator, List.isPrefixOf_iff_prefix] at hseparator
    simp [ScriptLine.not_isOverlong_of_head (by decide : '#' ≠ '@') hseparator]
  · exact unmarkedLine_eq_error_iff

/-- **Which line stops the reading of a script**: a directive with a numeral of too many digits. -/
theorem step_eq_error_iff :
    reading.step index text = .error fault ↔ fault = .numeralTooLong ∧
      reading.TakesDirective text ∧ ScriptLine.IsOverlong (trim text) := by
  cases hmode : reading.mode with
  | outside | head _ | body _ =>
    have hdoc : ∀ draft, reading.mode ≠ .doc draft := by simp [hmode]
    have hstep : reading.step index text = reading.line index text := by rw [step, hmode]
    rw [hstep, line_eq_error_iff hdoc]
    simp [TakesDirective, hmode]
  | doc draft =>
    have hstep : reading.step index text = .ok (reading.docLine draft (trim text)) := by
      rw [step, hmode]
      exact line_of_doc hmode index text
    simp [hstep, TakesDirective, hmode]
  | config current =>
    have hclosed : ∀ draft, (reading.closeBefore index).mode ≠ .doc draft := by
      simp [closeBefore_of_config hmode]
    have htakes : reading.TakesDirective text ↔
        ¬(ConfigBlock.isIndented text ∧ current.openSection.isSome) := by
      rw [TakesDirective, hmode]
    cases hnext : current.step? index text with
    | none =>
      rw [step_of_step?_eq_none hmode hnext, line_eq_error_iff hclosed, htakes]
      refine and_congr_right fun _ => ⟨fun hlong => ⟨?_, hlong⟩, And.right⟩
      exact (ConfigBlock.Reading.step?_eq_none_iff hlong.isPrefix).mp hnext
    | some following =>
      have hnot : ¬(reading.TakesDirective text ∧ ScriptLine.IsOverlong (trim text)) := by
        rintro ⟨houtside, hlong⟩
        rw [htakes, ← ConfigBlock.Reading.step?_eq_none_iff hlong.isPrefix, hnext] at houtside
        cases houtside
      simp [step_of_step?_eq_some hmode hnext, hnot]

/-- Several lines cannot be read where one of them cannot, once the lines before it have been
read. -/
theorem steps_eq_error_iff {texts : List (List Char)} :
    reading.steps index texts = .error fault ↔
      ∃ front line back middle, texts = front ++ line :: back ∧
        reading.steps index front = .ok middle ∧
        middle.step (index + front.length) line = .error fault := by
  induction texts generalizing reading index with
  | nil => simp [steps]
  | cons text rest ih =>
    rw [steps, bind_eq_error_iff]
    constructor
    · rintro (hfirst | ⟨next, hnext, hrest⟩)
      · exact ⟨[], text, rest, reading, rfl, rfl, hfirst⟩
      · obtain ⟨front, line, back, middle, rfl, hfront, hline⟩ := ih.mp hrest
        refine ⟨text :: front, line, back, middle, rfl, ?_, ?_⟩
        · rw [steps, hnext]
          exact hfront
        · rwa [List.length_cons, Nat.add_comm front.length, ← Nat.add_assoc]
    · rintro ⟨front, line, back, middle, htexts, hfront, hline⟩
      cases front with
      | nil =>
        obtain ⟨rfl, rfl⟩ := List.cons.inj htexts
        obtain rfl := Except.ok.inj hfront
        exact .inl hline
      | cons first front =>
        obtain ⟨rfl, rfl⟩ := List.cons.inj htexts
        obtain ⟨next, hnext, hrest⟩ := exists_step_of_steps_cons hfront
        rw [List.length_cons, Nat.add_comm front.length, ← Nat.add_assoc] at hline
        exact .inr ⟨next, hnext, ih.mpr ⟨front, line, back, middle, rfl, hrest, hline⟩⟩

end Document.Reading

namespace Document

/-- **Which scripts cannot be read**: those where a directive `@retry` or `@timeout`, which stands
neither in a doc comment nor in a section of a configuration block, has a numeral of too many
digits. Every other script says something. -/
theorem parse_eq_error_iff {text : String} {fault : Fault} :
    parse text = .error fault ↔ fault = .numeralTooLong ∧
      ∃ front line back reading, lines text.toList = front ++ line :: back ∧
        ({} : Reading).steps 0 front = .ok reading ∧
        reading.TakesDirective line ∧ ScriptLine.IsOverlong (trim line) := by
  rw [parse_eq, map_eq_error_iff, Reading.steps_eq_error_iff]
  simp only [Reading.step_eq_error_iff]
  constructor
  · rintro ⟨front, line, back, reading, htexts, hfront, hfault, hline⟩
    exact ⟨hfault, front, line, back, reading, htexts, hfront, hline⟩
  · rintro ⟨hfault, front, line, back, reading, htexts, hfront, hline⟩
    exact ⟨front, line, back, reading, htexts, hfront, hfault, hline⟩

/-- A count of attempts whose numeral has one digit more than can be read. -/
def longCount : List Char :=
  List.replicate (digitLimit + 1) '1'

theorem parse_longCount :
    parse (String.ofList ("@retry ".toList ++ longCount)) = .error .numeralTooLong := by
  have hone : ∀ c ∈ longCount, c = '1' := fun c hc => List.eq_of_mem_replicate hc
  have hne : longCount ≠ [] := List.cons_ne_nil _ _
  have hblank : ∀ c ∈ longCount, isBlank c = false := fun c hc => hone c hc ▸ by decide
  have hlines : lines ("@retry ".toList ++ longCount) = ["@retry ".toList ++ longCount] :=
    lines_of_not_mem fun hmem => by
      rcases List.mem_append.mp hmem with hmem | hmem
      · exact absurd hmem (by decide)
      · exact absurd (hone _ hmem) (by decide)
  have htrim : trim ("@retry ".toList ++ longCount) = "@retry ".toList ++ longCount := by
    rw [trim_eq_self_iff]
    refine ⟨rfl, trimEnd_append _ hne ?_⟩
    exact trimEnd_eq_self_iff.mpr fun c hc => hblank c (List.mem_of_getLast? hc)
  have hsplit : Directive.split? (trim ("@retry ".toList ++ longCount)) =
      some ("retry".toList, longCount) := by
    have hstart : trimStart longCount = longCount :=
      trimStart_eq_self_iff.mpr fun c hc => hblank c (List.mem_of_mem_head? hc)
    have happend := @Directive.split?_append 'r' "etry".toList (by decide) (by decide) longCount
    rw [hstart] at happend
    rw [htrim]
    exact happend
  have hnumeral : longCount ∈ Directive.numerals "retry" longCount := by
    have hdigits : longCount.takeWhile isDigit = longCount :=
      List.takeWhile_eq_self_iff.mpr fun c hc => hone c hc ▸ by decide
    have hempty : longCount.isEmpty = false := by simpa using hne
    simp [Directive.numerals, Directive.retryNumerals, hdigits, hempty]
  have hlong : ScriptLine.IsOverlong (trim ("@retry ".toList ++ longCount)) :=
    (ScriptLine.isOverlong_iff hsplit).mpr ⟨longCount, hnumeral, by simp [longCount]⟩
  have hstep : ({} : Reading).step 0 ("@retry ".toList ++ longCount) = .error .numeralTooLong :=
    Reading.step_eq_error_iff.mpr ⟨rfl, trivial, hlong⟩
  rw [parse_eq, String.toList_ofList, hlines, Reading.steps, hstep]
  rfl

end Document

end RequestScript
