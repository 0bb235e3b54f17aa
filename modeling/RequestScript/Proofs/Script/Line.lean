import Mathlib
import RequestScript.Proofs.Text.Blank
import RequestScript.Proofs.Text.Lines
import RequestScript.Script.Line

/-!
# Writing the lines of a request's head

An identifier, a name, a method line and a header each have one way to be written down. What is
written reads as what was meant: no earlier test of the reading takes the line for something else.
-/

namespace RequestScript

open Text

/-- A text on one line without blanks around it. -/
structure IsPhrase (cs : List Char) : Prop where
  /-- It is on one line. -/
  single : '\n' ∉ cs
  /-- There are no blanks around it. -/
  trimmed : trim cs = cs

instance (cs : List Char) : Decidable (IsPhrase cs) :=
  decidable_of_iff ('\n' ∉ cs ∧ trim cs = cs)
    ⟨fun ⟨single, trimmed⟩ => { single, trimmed }, fun h => ⟨h.single, h.trimmed⟩⟩

/-- The name of a header: a token that opens neither a comment nor a URL. -/
structure IsHeaderName (cs : List Char) : Prop where
  /-- It is a token. -/
  token : isAll ScriptLine.isHeaderChar cs
  /-- It does not open a comment. -/
  no_comment : ¬['#'] <+: cs
  /-- It does not look like a URL. -/
  no_url : ¬"http".toList <+: cs

instance (cs : List Char) : Decidable (IsHeaderName cs) :=
  decidable_of_iff (isAll ScriptLine.isHeaderChar cs ∧ ¬['#'] <+: cs ∧ ¬"http".toList <+: cs)
    ⟨fun ⟨token, no_comment, no_url⟩ => { token, no_comment, no_url },
      fun h => ⟨h.token, h.no_comment, h.no_url⟩⟩

/-- The name of a directive ends at the first blank. -/
theorem Directive.split?_append {first : Char} {word : List Char} (hfirst : first.isAlpha)
    (hword : word.all fun c => isWord c || c == '-') (argument : List Char) :
    split? ('@' :: first :: (word ++ ' ' :: argument)) =
      some (first :: word, trimStart argument) := by
  have htake : (word ++ ' ' :: argument).takeWhile (fun c => isWord c || c == '-') = word := by
    rw [List.takeWhile_append_of_pos (List.all_eq_true.mp hword),
      List.takeWhile_cons_of_neg (by decide), List.append_nil]
  have hdrop : (word ++ ' ' :: argument).dropWhile (fun c => isWord c || c == '-') =
      ' ' :: argument := by
    rw [List.dropWhile_append_of_pos (List.all_eq_true.mp hword),
      List.dropWhile_cons_of_neg (by decide)]
  have hblank : isBlank ' ' = true := by decide
  simp only [split?, htake, hdrop, hfirst, hblank, Bool.and_self, if_true]

namespace ScriptLine

/-! ## Characters -/

/-- Letters and digits of identifiers and header names are ASCII characters. -/
theorem toNat_lt_of_isAlphanum {c : Char} (h : c.isAlphanum) : c.toNat < 0x80 := by
  simp only [Char.isAlphanum, Char.isAlpha, Char.isUpper, Char.isLower, Char.isDigit,
    Bool.or_eq_true, Bool.and_eq_true, decide_eq_true_eq, ge_iff_le,
    UInt32.le_iff_toNat_le] at h
  simp only [Char.reduceVal, UInt32.reduceToNat, Char.toNat_val] at h
  omega

theorem toNat_lt_of_isHeaderChar {c : Char} (h : isHeaderChar c) : c.toNat < 0x80 := by
  rw [isHeaderChar, Bool.or_eq_true] at h
  rcases h with h | h
  · exact toNat_lt_of_isAlphanum h
  · have hall : "!#$%&\x27*+.^_\x60|~-".toList.all (·.toNat < 0x80) := by decide
    simpa using List.all_eq_true.mp hall c (List.contains_iff_mem.mp h)

/-- No character of a header name is a blank, ends the name, or opens a directive or a comment
with slashes. -/
theorem isHeaderChar_spec {c : Char} (h : isHeaderChar c) :
    isBlank c = false ∧ c ∉ [':', '@', '/'] :=
  of_toNat_lt (P := fun c => isHeaderChar c → isBlank c = false ∧ c ∉ [':', '@', '/'])
    (by decide) (toNat_lt_of_isHeaderChar h) h

/-- The methods are words in upper case that read as themselves. -/
theorem methods_spec : ∀ method ∈ methods,
    isAll (!isBlank ·) method ∧ upper method = method ∧
      methods.any (matchesMethod · method) := by
  decide

/-- A method starts with none of the characters that open another kind of line. -/
theorem exists_head_of_mem_methods {verb : List Char} (h : verb ∈ methods) :
    ∃ c more, verb = c :: more ∧ c ∉ ['#', '@', '/'] := by
  have hall : ∀ method ∈ methods, method.head?.any (· ∉ ['#', '@', '/']) := by decide
  have hverb := hall verb h
  cases verb with
  | nil => exact Bool.noConfusion hverb
  | cons c more => exact ⟨c, more, rfl, by simpa using hverb⟩

/-- No letter of a method is a colon, or starts a comment or a directive. -/
theorem not_matchesLetter_mark {c : Char} (hc : c ∈ [':', '#', '@', '/']) :
    ∀ method ∈ methods, method.all fun letter => !matchesLetter letter c := by
  simp only [List.mem_cons, List.not_mem_nil, or_false] at hc
  rcases hc with rfl | rfl | rfl | rfl <;> decide

/-- Every character of a word that matches a method matches one of its letters. -/
theorem exists_matchesLetter {letters word : List Char} (h : matchesMethod letters word) {c : Char}
    (hc : c ∈ word) : ∃ letter ∈ letters, matchesLetter letter c := by
  induction letters generalizing word with
  | nil =>
    cases word with
    | nil => exact absurd hc List.not_mem_nil
    | cons d word => simp [matchesMethod] at h
  | cons letter letters ih =>
    cases word with
    | nil => exact absurd hc List.not_mem_nil
    | cons d word =>
      rw [matchesMethod, Bool.and_eq_true] at h
      rcases List.mem_cons.mp hc with rfl | hc
      · exact ⟨letter, List.mem_cons_self, h.1⟩
      · obtain ⟨found, hmem, hfound⟩ := ih h.2 hc
        exact ⟨found, List.mem_cons_of_mem letter hmem, hfound⟩

/-- A line whose first word has a colon, or what starts a comment or a directive, is no method
line. -/
theorem methodLine?_of_mark {c : Char} (hc : c ∈ [':', '#', '@', '/']) {cs : List Char}
    (h : c ∈ cs.takeWhile (!isBlank ·)) : methodLine? cs = none := by
  have hany : methods.any (matchesMethod · (cs.takeWhile (!isBlank ·))) = false := by
    rw [List.any_eq_false]
    intro method hmethod hmatch
    obtain ⟨letter, hletter, hmark⟩ := exists_matchesLetter hmatch h
    have hother := List.all_eq_true.mp (not_matchesLetter_mark hc method hmethod) letter hletter
    rw [hmark] at hother
    exact Bool.noConfusion hother
  rw [methodLine?, hany]
  simp

/-- A word before a blank, or alone, is the first word. -/
theorem takeWhile_word {word tail rest : List Char} (hword : isAll (!isBlank ·) word)
    (htail : tail = [] ∨ tail = ' ' :: rest) : (word ++ tail).takeWhile (!isBlank ·) = word := by
  rw [List.takeWhile_append_of_pos (isAll_iff.mp hword).2]
  rcases htail with rfl | rfl
  · exact List.append_nil word
  · rw [List.takeWhile_cons_of_neg (by decide), List.append_nil]

/-! ## Reading one kind of line -/

/-- A line that starts with none of `#`, `@` and `/` is a method line, a header or nothing. -/
theorem read_of_head {c : Char} (hc : c ∉ ['#', '@', '/']) (cs : List Char) :
    read (c :: cs) =
      match methodLine? (c :: cs) with
      | some (name, url) => .ok (.method name url)
      | none =>
        match headerLine? (c :: cs) with
        | some (name, value) => .ok (.header name value)
        | none => .ok .other := by
  simp only [List.mem_cons, List.not_mem_nil, or_false, not_or] at hc
  have hcomment : isComment (c :: cs) = false := by
    simp [isComment, List.isPrefixOf, Ne.symm hc.1, Ne.symm hc.2.2]
  have hdirective : Directive.split? (c :: cs) = none := by
    rw [Directive.split?.eq_2]
    rintro first rest heq
    exact hc.2.1 (List.cons.inj heq).1
  rw [read, hcomment, hdirective]
  rfl

/-- A method, a blank and a URL are a method line. -/
theorem read_method {verb url : List Char} (hverb : verb ∈ methods) (hne : url ≠ [])
    (hurl : trim url = url) :
    read (verb ++ ' ' :: url) = .ok (.method (String.ofList verb) (String.ofList url)) := by
  obtain ⟨hword, hupper, hmatches⟩ := methods_spec verb hverb
  have htake : (verb ++ ' ' :: url).takeWhile (!isBlank ·) = verb :=
    takeWhile_word hword (.inr rfl)
  have hdrop : trim ((verb ++ ' ' :: url).drop verb.length) = url := by
    rw [List.drop_left, trim_cons_of_isBlank (by decide), hurl]
  have hline : methodLine? (verb ++ ' ' :: url) = some (String.ofList verb, String.ofList url) := by
    have hurl' : (!url.isEmpty) = true := by simpa using hne
    simp only [methodLine?, htake, hdrop, hmatches, hurl', hupper, Bool.and_self, if_true]
  obtain ⟨c, more, rfl, hc⟩ := exists_head_of_mem_methods hverb
  rw [List.cons_append] at hline ⊢
  rw [read_of_head hc, hline]

/-- A header name starts with none of the characters that open another kind of line. -/
theorem exists_head_of_isHeaderName {key : List Char} (h : IsHeaderName key) :
    ∃ c more, key = c :: more ∧ c ∉ ['#', '@', '/'] := by
  obtain ⟨hne, hall⟩ := isAll_iff.mp h.token
  cases key with
  | nil => exact absurd rfl hne
  | cons c more =>
    have hother := (isHeaderChar_spec (hall c List.mem_cons_self)).2
    have hcomment : c ≠ '#' := by
      rintro rfl
      exact h.no_comment ⟨more, rfl⟩
    simp only [List.mem_cons, List.not_mem_nil, or_false, not_or] at hother
    refine ⟨c, more, rfl, ?_⟩
    simp only [List.mem_cons, List.not_mem_nil, or_false, not_or]
    exact ⟨hcomment, hother.2⟩

/-- A header name and its colon are one word. -/
theorem isAll_not_isBlank_of_isHeaderName {key : List Char} (h : IsHeaderName key) :
    isAll (!isBlank ·) (key ++ [':']) := by
  refine isAll_iff.mpr ⟨by simp, ?_⟩
  intro c hc
  rcases List.mem_append.mp hc with hc | hc
  · simp [(isHeaderChar_spec ((isAll_iff.mp h.token).2 c hc)).1]
  · rw [List.mem_singleton.mp hc]
    decide

/-- A header name and its colon do not start like a URL. -/
theorem not_url_of_isHeaderName {key : List Char} (h : IsHeaderName key) (tail : List Char) :
    ¬"http".toList <+: key ++ ':' :: tail := by
  intro hurl
  have hcolon : ':' ∉ "http".toList := by decide
  have hkey : key ++ [':'] <+: key ++ ':' :: tail := ⟨tail, by simp⟩
  rcases List.prefix_or_prefix_of_prefix hurl hkey with hshort | hlong
  · rcases List.prefix_concat_iff.mp hshort with heq | hkey
    · exact hcolon (heq ▸ by simp)
    · exact h.no_url hkey
  · exact hcolon (hlong.mem (by simp))

/-- A header name, a colon and a value are a header. -/
theorem read_header {key tail value : List Char} (hkey : IsHeaderName key)
    (htail : tail = [] ∨ tail = ' ' :: value) (hvalue : trim tail = value) :
    read (key ++ ':' :: tail) = .ok (.header (String.ofList key) (String.ofList value)) := by
  obtain ⟨_, hall⟩ := isAll_iff.mp hkey.token
  have hmethod : methodLine? (key ++ ':' :: tail) = none := by
    -- The colon belongs to the first word, and no method has one.
    apply methodLine?_of_mark (c := ':') (by decide)
    have hword := takeWhile_word (isAll_not_isBlank_of_isHeaderName hkey) htail
    rw [List.append_assoc, List.singleton_append] at hword
    rw [hword]
    simp
  have hheader : headerLine? (key ++ ':' :: tail) =
      some (String.ofList key, String.ofList value) := by
    have hurl : ¬"http".toList.isPrefixOf (key ++ ':' :: tail) := fun hurl =>
      not_url_of_isHeaderName hkey tail (List.isPrefixOf_iff_prefix.mp hurl)
    have hcolon : ':' ∉ key := fun hmem => (isHeaderChar_spec (hall _ hmem)).2 (by simp)
    have htrim : trim key = key := trim_of_forall fun c hc => (isHeaderChar_spec (hall c hc)).1
    rw [headerLine?, if_neg hurl, cut?_append hcolon]
    simp only [htrim, hkey.token, hvalue, if_true]
  obtain ⟨c, more, rfl, hc⟩ := exists_head_of_isHeaderName hkey
  rw [List.cons_append] at hmethod hheader ⊢
  rw [read_of_head hc, hmethod, hheader]

/-- A directive with a word and an argument says what its word makes of the argument. -/
theorem read_directive {first : Char} (word : List Char) {argument : List Char}
    (hfirst : first.isAlpha) (hword : word.all fun c => isWord c || c == '-')
    (hargument : trim argument = argument)
    {directive : Option Directive}
    (hread : Directive.read (String.ofList (first :: word)) argument = .ok directive) :
    read ('@' :: first :: (word ++ ' ' :: argument)) = .ok (.directive directive) := by
  have hstart : trimStart argument = argument := (trim_eq_self_iff.mp hargument).1
  have hcomment : isComment ('@' :: first :: (word ++ ' ' :: argument)) = false := rfl
  rw [read, hcomment, Directive.split?_append hfirst hword, hstart]
  simp only [hread]
  rfl

end ScriptLine

/-! ## Lines that are written -/

/-- A line to be written into the head of a request. -/
inductive HeadLine where
  /-- The identifier. -/
  | id (letters : String)
  /-- The name. -/
  | name (words : String)
  /-- The method and the URL. -/
  | method (verb url : String)
  /-- A header. -/
  | header (key value : String)

namespace HeadLine

/-- The first word of a line, which tells its kind. -/
def lead : HeadLine → List Char
  | .id _ => "@id".toList
  | .name _ => "@name".toList
  | .method verb _ => verb.toList
  | .header key _ => key.toList ++ [':']

/-- What a line has after its first word. -/
def rest : HeadLine → List Char
  | .id letters => letters.toList
  | .name words => words.toList
  | .method _ url => url.toList
  | .header _ value => value.toList

/-- A line as it is written. -/
def text (line : HeadLine) : List Char :=
  line.lead ++ ' ' :: line.rest

/-- What a line says. -/
def said : HeadLine → ScriptLine
  | .id letters => .directive (some (.id letters))
  | .name words => .directive (some (.name words))
  | .method verb url => .method verb url
  | .header key value => .header key value

/-- Whether the parts of a line can be written down. The value of a header may be empty. -/
def WellFormed : HeadLine → Prop
  | .id letters => Directive.isId letters.toList
  | .name words => words.toList ≠ [] ∧ IsPhrase words.toList
  | .method verb url =>
    verb.toList ∈ ScriptLine.methods ∧ url.toList ≠ [] ∧ IsPhrase url.toList
  | .header key value => IsHeaderName key.toList ∧ IsPhrase value.toList

variable {line : HeadLine}

/-- The first word of a line has no blanks. -/
theorem WellFormed.lead_spec (h : line.WellFormed) : isAll (!isBlank ·) line.lead := by
  cases line with
  | id letters => rfl
  | name words => rfl
  | method verb url => exact (ScriptLine.methods_spec _ h.1).1
  | header key value => exact ScriptLine.isAll_not_isBlank_of_isHeaderName h.1

/-- What comes after the first word of a line is one phrase. -/
theorem WellFormed.rest_spec (h : line.WellFormed) : IsPhrase line.rest := by
  cases line with
  | id letters =>
    have hletters : Directive.isId letters.toList := h
    rw [Directive.isId, Bool.and_eq_true, List.all_eq_true] at hletters
    have hblank : ∀ c ∈ letters.toList, isBlank c = false := by
      intro c hc
      have hletter : c.isAlphanum := hletters.2 c hc
      exact (ScriptLine.isHeaderChar_spec (by simp [ScriptLine.isHeaderChar, hletter])).1
    refine ⟨fun hmem => ?_, trim_of_forall hblank⟩
    have hfeed := hblank '\n' hmem
    revert hfeed
    decide
  | name words => exact h.2
  | method verb url => exact h.2.2
  | header key value => exact h.2

/-- A line as it is written is one line. -/
theorem WellFormed.lines_text (h : line.WellFormed) : lines line.text = [line.text] := by
  obtain ⟨_, hlead⟩ := isAll_iff.mp h.lead_spec
  apply lines_of_not_mem
  intro hmem
  rw [text, List.mem_append, List.mem_cons] at hmem
  rcases hmem with hmem | hmem | hmem
  · exact absurd (hlead '\n' hmem) (by decide)
  · exact absurd hmem (by decide)
  · exact h.rest_spec.single hmem

/-- A line as it is written does not end with a carriage return. -/
theorem WellFormed.getLast?_text (h : line.WellFormed) : line.text.getLast? ≠ some '\r' := by
  intro hlast
  rw [text, List.getLast?_append_of_ne_nil _ (List.cons_ne_nil _ _)] at hlast
  by_cases hrest : line.rest = []
  · rw [hrest] at hlast
    exact absurd hlast (by decide)
  · have hend := trimEnd_eq_self_iff.mp (trim_eq_self_iff.mp h.rest_spec.trimmed).2
    rw [← List.singleton_append, List.getLast?_append_of_ne_nil _ hrest] at hlast
    exact absurd (hend '\r' hlast) (by decide)

/-- The trimmed line is its first word and what comes after it, if there is anything. -/
theorem WellFormed.trim_text (h : line.WellFormed) :
    ∃ tail, trim line.text = line.lead ++ tail ∧ trim tail = line.rest ∧
      (tail = [] ∨ tail = ' ' :: line.rest) := by
  obtain ⟨hne, hlead⟩ := isAll_iff.mp h.lead_spec
  have htrim : trim line.lead = line.lead := trim_of_forall fun c hc => by simpa using hlead c hc
  have hblank : trim (' ' :: line.rest) = line.rest := by
    rw [trim_cons_of_isBlank (by decide), h.rest_spec.trimmed]
  rw [text, trim_append_left hne htrim]
  by_cases hrest : line.rest = []
  · rw [hrest]
    exact ⟨[], rfl, rfl, .inl rfl⟩
  · have hend : trimEnd (' ' :: line.rest) = ' ' :: line.rest :=
      trimEnd_append [' '] hrest (trim_eq_self_iff.mp h.rest_spec.trimmed).2
    exact ⟨' ' :: line.rest, by rw [hend], hblank, .inr rfl⟩

/-- A line of the head says what it is written for. -/
theorem WellFormed.read_text (h : line.WellFormed) :
    ScriptLine.read (trim line.text) = .ok line.said := by
  obtain ⟨tail, htrim, hrest, htail⟩ := h.trim_text
  rw [htrim]
  cases line with
  | id letters =>
    have hletters : Directive.isId letters.toList := h
    have hread : Directive.read "id" letters.toList = .ok (some (.id letters)) := by
      rw [Directive.read, Directive.ofId, if_pos hletters, String.ofList_toList]
    rcases htail with rfl | rfl
    · have hempty : letters.toList = [] := hrest.symm
      rw [hempty] at hletters
      exact Bool.noConfusion hletters
    · exact ScriptLine.read_directive ['d'] rfl (by decide) h.rest_spec.trimmed hread
  | name words =>
    have hread : Directive.read "name" words.toList = .ok (some (.name words)) := by
      have hne : ¬words.toList.isEmpty := by simpa using h.1
      rw [Directive.read, Directive.ofText, if_neg hne, String.ofList_toList]
    rcases htail with rfl | rfl
    · exact absurd hrest.symm h.1
    · exact ScriptLine.read_directive ['a', 'm', 'e'] rfl (by decide)
        h.rest_spec.trimmed hread
  | method verb url =>
    rcases htail with rfl | rfl
    · exact absurd hrest.symm h.2.1
    · have hread := ScriptLine.read_method h.1 h.2.1 h.2.2.trimmed
      rw [String.ofList_toList, String.ofList_toList] at hread
      exact hread
  | header key value =>
    have hread : ScriptLine.read (key.toList ++ ':' :: tail) =
        .ok (.header (String.ofList key.toList) (String.ofList value.toList)) :=
      ScriptLine.read_header h.1 htail hrest
    rw [String.ofList_toList, String.ofList_toList] at hread
    rw [lead, List.append_assoc]
    exact hread

end HeadLine

end RequestScript
