import RequestScript.Proofs.Value.Numeral
import RequestScript.Proofs.Value.Readable
import RequestScript.Proofs.Value.Strings

/-!
# Reading what was written

Every value that can be read reads back from its text in either style, where there is room for its
arrays and objects.
-/

namespace RequestScript.Value

open Text Double

/-- A value reads back from its text, whatever follows that could not belong to a number. -/
def ReadsBack (style : Style) (value : Value) : Prop :=
  ∀ (fuel level : Nat) {room : Nat} {rest : List Char}, value.depth ≤ room →
    2 * (value.write style level).length < fuel → EndsNumeral rest →
      readValue fuel room (value.write style level ++ rest) = .ok (value, rest)

/-! ## Blanks -/

/-- No blank starts a text. -/
def IsTight (cs : List Char) : Prop :=
  ∀ c ∈ cs.head?, isJsonBlank c = false

theorem isTight_cons {c : Char} (h : isJsonBlank c = false) (rest : List Char) :
    IsTight (c :: rest) := by
  intro first hfirst
  obtain rfl := Option.some.inj hfirst
  exact h

theorem endsNumeral_cons {c : Char} (h : isAsciiDigit c = false ∧ c ≠ '.' ∧ c ≠ 'e' ∧ c ≠ 'E')
    (rest : List Char) : EndsNumeral (c :: rest) := by
  intro first hfirst
  obtain rfl := Option.some.inj hfirst
  exact h

theorem skipBlanks_of_isTight {cs : List Char} (h : IsTight cs) : skipBlanks cs = cs := by
  cases cs with
  | nil => rfl
  | cons c rest => simp [skipBlanks, h c rfl]

theorem skipBlanks_lineBreak (style : Style) (level : Nat) {cs : List Char} (h : IsTight cs) :
    skipBlanks (lineBreak style level ++ cs) = cs := by
  have hblank : ∀ c ∈ lineBreak style level, isJsonBlank c = true := by
    intro c hc
    unfold lineBreak at hc
    split at hc
    · rcases List.mem_cons.mp hc with rfl | hspace
      · decide
      · obtain rfl := List.eq_of_mem_replicate hspace
        decide
    · cases hc
  have hskip : skipBlanks (lineBreak style level ++ cs) = skipBlanks cs :=
    List.dropWhile_append_of_pos hblank
  rw [hskip, skipBlanks_of_isTight h]

theorem endsNumeral_lineBreak (style : Style) (level : Nat) {cs : List Char} (h : EndsNumeral cs) :
    EndsNumeral (lineBreak style level ++ cs) := by
  unfold lineBreak
  split
  · exact endsNumeral_cons (by decide) _
  · exact h

/-! ## Single values -/

/-- A value that starts with no quote, bracket or brace is a word or a number. -/
theorem readValue_plain (fuel room : Nat) {c : Char} (hc : c ∉ ['\x22', '[', '\x7b'])
    (rest : List Char) :
    readValue (fuel + 1) room (c :: rest) =
      match readWord? (c :: rest) with
      | some word => .ok word
      | none => readNumber (c :: rest) := by
  simp only [List.mem_cons, List.not_mem_nil, or_false, not_or] at hc
  change (if c = '\x22' then _ else if c = '[' then _ else if c = '\x7b' then _ else _) = _
  exact ((if_neg hc.1).trans (if_neg hc.2.1)).trans (if_neg hc.2.2)

theorem readValue_word (fuel room : Nat) (word : List Char) {rest : List Char} {value : Value}
    (hhead : ∀ c ∈ (word ++ rest).head?, c ∉ ['\x22', '[', '\x7b'])
    (hword : readWord? (word ++ rest) = some (value, rest)) :
    readValue (fuel + 1) room (word ++ rest) = .ok (value, rest) := by
  generalize word ++ rest = cs at hhead hword
  cases cs with
  | nil => cases hword
  | cons c more => rw [readValue_plain fuel room (hhead c rfl), hword]

theorem readWord?_signed (negative : Bool) {digit : Char} (hdigit : isAsciiDigit digit = true)
    (rest : List Char) : readWord? (signed negative (digit :: rest)) = none := by
  have hne {letter : Char} (hletter : isAsciiDigit letter = false) : letter ≠ digit := by
    rintro rfl
    rw [hdigit] at hletter
    cases hletter
  have hn : 'n' ≠ digit := hne (by decide)
  have ht : 't' ≠ digit := hne (by decide)
  have hf : 'f' ≠ digit := hne (by decide)
  have hN : 'N' ≠ digit := hne (by decide)
  have hI : 'I' ≠ digit := hne (by decide)
  have hminus : '-' ≠ digit := hne (by decide)
  cases negative <;> simp [readWord?, signed, hn, ht, hf, hN, hI, hminus]

/-- A numeral is read as a number. -/
theorem readValue_number (fuel room : Nat) (negative : Bool) {digits rest : List Char}
    {value : Value} (hdigits : ∀ c ∈ (digits ++ rest).head?, isAsciiDigit c = true)
    (hnumber : readNumber (signed negative digits ++ rest) = .ok (value, rest)) :
    readValue (fuel + 1) room (signed negative digits ++ rest) = .ok (value, rest) := by
  have hsigned : signed negative digits ++ rest = signed negative (digits ++ rest) := by
    cases negative <;> rfl
  rw [hsigned] at hnumber ⊢
  cases hcs : digits ++ rest with
  | nil =>
    rw [hcs] at hnumber
    cases negative <;> cases hnumber
  | cons digit more =>
    rw [hcs] at hnumber hdigits
    have hdigit := hdigits digit rfl
    have hword := readWord?_signed negative hdigit more
    have hplain {c : Char} (hc : isAsciiDigit c = true) : c ∉ ['\x22', '[', '\x7b'] := by
      intro hmem
      simp only [List.mem_cons, List.not_mem_nil, or_false] at hmem
      rcases hmem with rfl | rfl | rfl <;> exact absurd hc (by decide)
    cases negative with
    | true =>
      have hcs : signed true (digit :: more) = '-' :: digit :: more := rfl
      rw [hcs] at hnumber hword ⊢
      rw [readValue_plain fuel room (by decide), hword, hnumber]
    | false =>
      have hcs : signed false (digit :: more) = digit :: more := rfl
      rw [hcs] at hnumber hword ⊢
      rw [readValue_plain fuel room (hplain hdigit), hword, hnumber]

theorem readsBack_int (style : Style) {n : Int} (hn : isTooLong n = false) :
    ReadsBack style (.int n) := by
  intro fuel level room rest _ hfuel hrest
  obtain ⟨fuel, rfl⟩ := Nat.exists_eq_succ_of_ne_zero (Nat.ne_zero_of_lt hfuel)
  have hread := readNumber_decimalInt hn hrest
  rw [decimalInt_eq_signed] at hread
  rw [write_int, decimalInt_eq_signed]
  exact readValue_number fuel room _ (head?_decimal _ _) hread

theorem readsBack_double (style : Style) (x : Double) : ReadsBack style (.double x) := by
  intro fuel level room rest _ hfuel hrest
  obtain ⟨fuel, rfl⟩ := Nat.exists_eq_succ_of_ne_zero (Nat.ne_zero_of_lt hfuel)
  rw [write_double]
  cases x with
  | nan => exact readValue_word fuel room ['N', 'a', 'N'] (by simp) rfl
  | infinite negative =>
    cases negative
    · exact readValue_word fuel room "Infinity".toList (by simp) rfl
    · exact readValue_word fuel room "-Infinity".toList (by simp) rfl
  | finite negative code =>
    obtain ⟨numeral, hnumeral, htext, -⟩ := exists_numeral code.isLt
    have hread := readNumber_text_double negative code hrest
    rw [writeDouble_finite]
    exact readValue_number fuel room negative (htext ▸ hnumeral.head?_text rest) hread

/-! ## Strings -/

theorem writeChar_ne_nil (style : Style) (c : Char) : writeChar style c ≠ [] := by
  have hescape : unicodeEscape c ≠ [] := by
    unfold unicodeEscape
    split <;> exact List.cons_ne_nil _ _
  unfold writeChar
  repeat' split
  all_goals first | exact List.cons_ne_nil _ _ | exact hescape

theorem length_le_writeString (style : Style) (s : String) :
    s.toList.length + 2 ≤ (writeString style s).length := by
  have hmap : s.toList.length ≤ (s.toList.flatMap (writeChar style)).length := by
    induction s.toList with
    | nil => simp
    | cons c cs ih =>
      have hc := List.length_pos_iff.mpr (writeChar_ne_nil style c)
      rw [List.flatMap_cons, List.length_append, List.length_cons]
      omega
  simp only [writeString, List.length_append, List.length_cons, List.length_nil]
  omega

/-- Behind its opening quote a string is read up to its closing one. -/
theorem readString_writeString (style : Style) (start : List Char) (s : String) (fuel : Nat)
    (hfuel : (writeString style s).length ≤ fuel + 1) (rest : List Char) :
    ∃ cs, writeString style s ++ rest = '\x22' :: cs ∧
      readString start fuel cs = .ok (s.toList, rest) := by
  have hlength := length_le_writeString style s
  refine ⟨s.toList.flatMap (writeChar style) ++ '\x22' :: rest, ?_, ?_⟩
  · simp [writeString]
  · exact readString_flatMap style start (by omega) rest

theorem readsBack_string (style : Style) (s : String) : ReadsBack style (.string s) := by
  intro fuel level room rest _ hfuel _
  obtain ⟨fuel, rfl⟩ := Nat.exists_eq_succ_of_ne_zero (Nat.ne_zero_of_lt hfuel)
  rw [write_string] at hfuel ⊢
  obtain ⟨cs, hcs, hread⟩ :=
    readString_writeString style (writeString style s ++ rest) s fuel (by omega) rest
  rw [hcs] at hread ⊢
  change (readString ('\x22' :: cs) fuel cs >>= _) = _
  rw [hread]
  simp only [bind, Except.bind, pure, Except.pure, String.ofList_toList]

/-! ## Arrays and objects -/

/-- A character that no value starts with. -/
def isNoStart (c : Char) : Bool :=
  isJsonBlank c || c == ']' || c == '\ufeff'

theorem isNoStart_of_isAsciiDigit {c : Char} (h : isAsciiDigit c = true) : isNoStart c = false := by
  simp only [isNoStart, isJsonBlank, Bool.or_eq_false_iff, beq_eq_false_iff_ne]
  refine ⟨⟨⟨⟨⟨?_, ?_⟩, ?_⟩, ?_⟩, ?_⟩, ?_⟩ <;> rintro rfl <;> exact absurd h (by decide)

/-- No value starts with a blank, a closing bracket or a byte order mark. -/
theorem exists_head_write (style : Style) (level : Nat) (value : Value) (rest : List Char) :
    ∃ c cs, value.write style level ++ rest = c :: cs ∧ isNoStart c = false := by
  have hnumber {cs : List Char} (negative : Bool)
      (hdigits : ∀ c ∈ (cs ++ rest).head?, isAsciiDigit c = true) (hne : cs ≠ []) :
      ∃ c more, signed negative cs ++ rest = c :: more ∧ isNoStart c = false := by
    cases negative with
    | true => exact ⟨'-', cs ++ rest, rfl, by decide⟩
    | false =>
      obtain ⟨digit, more, rfl⟩ := List.exists_cons_of_ne_nil hne
      exact ⟨digit, more ++ rest, rfl, isNoStart_of_isAsciiDigit (hdigits digit rfl)⟩
  cases value with
  | null => exact ⟨'n', _, rfl, by decide⟩
  | bool b => cases b <;> exact ⟨_, _, rfl, by decide⟩
  | int n =>
    rw [write_int, decimalInt_eq_signed]
    exact hnumber _ (head?_decimal _ _) (decimal_ne_nil _)
  | double x =>
    rw [write_double]
    cases x with
    | nan => exact ⟨'N', _, rfl, by decide⟩
    | infinite negative => cases negative <;> exact ⟨_, _, rfl, by decide⟩
    | finite negative code =>
      obtain ⟨numeral, hnumeral, htext, -⟩ := exists_numeral code.isLt
      rw [writeDouble_finite, htext]
      exact hnumber negative (hnumeral.head?_text rest)
        (by simp [Numeral.text, hnumeral.whole_ne_nil])
  | string s => exact ⟨'\x22', _, rfl, by decide⟩
  | array items => cases items <;> exact ⟨'[', _, rfl, by decide⟩
  | object fields => cases fields <;> exact ⟨'\x7b', _, rfl, by decide⟩

/-- What starts with a value starts with no blank. -/
theorem isTight_write (style : Style) (level : Nat) (value : Value) (rest : List Char) :
    IsTight (value.write style level ++ rest) := by
  obtain ⟨c, cs, hcs, hstart⟩ := exists_head_write style level value rest
  simp only [isNoStart, Bool.or_eq_false_iff] at hstart
  exact hcs ▸ isTight_cons hstart.1.1 cs

/-- The items of an array read back up to the bracket that closes it. -/
theorem readItems_write (style : Style) (level closing : Nat) {item : Value} {items : List Value}
    (hitems : ∀ inner ∈ item :: items, ReadsBack style inner) (fuel : Nat) {room : Nat}
    (hroom : ∀ inner ∈ item :: items, inner.depth ≤ room)
    (hfuel : 2 * (item.write style level ++ writeItems style level items).length + 1 < fuel)
    (rest : List Char) :
    readItems fuel room (item.write style level ++ (writeItems style level items ++
      (lineBreak style closing ++ ']' :: rest))) = .ok (item :: items, rest) := by
  induction items generalizing item fuel with
  | nil =>
    obtain ⟨fuel, rfl⟩ := Nat.exists_eq_succ_of_ne_zero (Nat.ne_zero_of_lt hfuel)
    obtain ⟨hitem, -⟩ := List.forall_mem_cons.mp hitems
    obtain ⟨hdepth, -⟩ := List.forall_mem_cons.mp hroom
    rw [writeItems_nil, List.append_nil] at hfuel
    rw [writeItems_nil, List.nil_append]
    change (readValue fuel room _ >>= _) = _
    rw [hitem fuel level hdepth (by omega)
      (endsNumeral_lineBreak style closing (endsNumeral_cons (by decide) rest))]
    simp only [bind, Except.bind]
    rw [skipBlanks_lineBreak style closing (isTight_cons (by decide) rest)]
    rfl
  | cons next items ih =>
    obtain ⟨fuel, rfl⟩ := Nat.exists_eq_succ_of_ne_zero (Nat.ne_zero_of_lt hfuel)
    obtain ⟨hitem, hitems⟩ := List.forall_mem_cons.mp hitems
    obtain ⟨hdepth, hroom⟩ := List.forall_mem_cons.mp hroom
    simp only [writeItems_cons, List.length_append, List.length_cons] at hfuel ih
    have hmore := ih hitems fuel hroom (by omega)
    have htight := isTight_write style level next
      (writeItems style level items ++ (lineBreak style closing ++ ']' :: rest))
    rw [writeItems_cons]
    simp only [List.append_assoc, List.cons_append]
    change (readValue fuel room _ >>= _) = _
    rw [hitem fuel level hdepth (by omega) (endsNumeral_cons (by decide) _)]
    simp only [bind, Except.bind]
    rw [skipBlanks_of_isTight (isTight_cons (by decide) _)]
    simp only [skipBlanks_lineBreak style level htight, hmore]
    rfl

theorem exists_head_writeField (style : Style) (level : Nat) (field : String × Value)
    (rest : List Char) : ∃ cs, writeField style level field ++ rest = '\x22' :: cs := by
  obtain ⟨name, value⟩ := field
  exact ⟨_, rfl⟩

/-- The field of an object is read, and then it ends or goes on. -/
theorem readFields_writeField (style : Style) (level : Nat) {field : String × Value}
    {fuel room : Nat} (hvalue : ReadsBack style field.2) (hroom : field.2.depth ≤ room)
    (hfuel : 2 * (writeField style level field).length < fuel) {rest : List Char}
    (hrest : EndsNumeral rest) :
    readFields (fuel + 1) room (writeField style level field ++ rest) =
      match skipBlanks rest with
        | '\x7d' :: rest => .ok ([field], rest)
        | ',' :: rest => do
          let (fields, rest) ← readFields fuel room (skipBlanks rest)
          return (field :: fields, rest)
        | rest => .error (.shownAt .comma rest) := by
  obtain ⟨name, value⟩ := field
  dsimp only at hvalue hroom
  have hlength := length_le_writeString style name
  simp only [writeField_mk, List.length_append] at hfuel
  obtain ⟨cs, hcs, hread⟩ :=
    readString_writeString style (writeField style level (name, value) ++ rest) name fuel
      (by omega) (colon style ++ (value.write style level ++ rest))
  have htight := isTight_write style level value rest
  have hcolon : ∃ gap, skipBlanks (colon style ++ (value.write style level ++ rest)) =
      ':' :: gap ∧ skipBlanks gap = value.write style level ++ rest := by
    cases hindented : style.indented with
    | true =>
      refine ⟨' ' :: (value.write style level ++ rest), ?_, ?_⟩
      · simp [colon, hindented, skipBlanks, isJsonBlank]
      · have hspace : skipBlanks (' ' :: (value.write style level ++ rest)) =
            skipBlanks (value.write style level ++ rest) := rfl
        rw [hspace, skipBlanks_of_isTight htight]
    | false =>
      refine ⟨value.write style level ++ rest, ?_, skipBlanks_of_isTight htight⟩
      simp [colon, hindented, skipBlanks, isJsonBlank]
  obtain ⟨gap, hgap, hskip⟩ := hcolon
  have htext : writeField style level (name, value) ++ rest = '\x22' :: cs := by
    rw [← hcs]
    simp only [writeField_mk, List.append_assoc]
  have hbehind := hvalue fuel level hroom (by omega) hrest
  rw [htext] at hread ⊢
  change (readString ('\x22' :: cs) fuel cs >>= _) = _
  rw [hread]
  simp only [bind, Except.bind, hgap, hskip, hbehind, String.ofList_toList]
  rfl

/-- The fields of an object read back up to the brace that closes it. -/
theorem readFields_write (style : Style) (level closing : Nat) {field : String × Value}
    {fields : Table Value} (hfields : ∀ inner ∈ field :: fields, ReadsBack style inner.2)
    (fuel : Nat) {room : Nat} (hroom : ∀ inner ∈ field :: fields, inner.2.depth ≤ room)
    (hfuel : 2 * (writeField style level field ++ writeFields style level fields).length + 1 < fuel)
    (rest : List Char) :
    readFields fuel room (writeField style level field ++ (writeFields style level fields ++
      (lineBreak style closing ++ '\x7d' :: rest))) = .ok (field :: fields, rest) := by
  induction fields generalizing field fuel with
  | nil =>
    obtain ⟨fuel, rfl⟩ := Nat.exists_eq_succ_of_ne_zero (Nat.ne_zero_of_lt hfuel)
    obtain ⟨hfield, -⟩ := List.forall_mem_cons.mp hfields
    obtain ⟨hdepth, -⟩ := List.forall_mem_cons.mp hroom
    rw [writeFields_nil, List.append_nil] at hfuel
    rw [writeFields_nil, List.nil_append, readFields_writeField style level hfield hdepth (by omega)
      (endsNumeral_lineBreak style closing (endsNumeral_cons (by decide) rest)),
      skipBlanks_lineBreak style closing (isTight_cons (by decide) rest)]
    rfl
  | cons next fields ih =>
    obtain ⟨fuel, rfl⟩ := Nat.exists_eq_succ_of_ne_zero (Nat.ne_zero_of_lt hfuel)
    obtain ⟨hfield, hfields⟩ := List.forall_mem_cons.mp hfields
    obtain ⟨hdepth, hroom⟩ := List.forall_mem_cons.mp hroom
    simp only [writeFields_cons, List.length_append, List.length_cons] at hfuel ih
    have hmore := ih hfields fuel hroom (by omega)
    obtain ⟨cs, hcs⟩ := exists_head_writeField style level next
      (writeFields style level fields ++ (lineBreak style closing ++ '\x7d' :: rest))
    have htight := hcs ▸ isTight_cons (c := '\x22') (by decide) cs
    rw [writeFields_cons]
    simp only [List.append_assoc, List.cons_append]
    rw [readFields_writeField style level hfield hdepth (by omega) (endsNumeral_cons (by decide) _),
      skipBlanks_of_isTight (isTight_cons (by decide) _)]
    simp only [skipBlanks_lineBreak style level htight, hmore]
    rfl

theorem readsBack_array (style : Style) {items : List Value}
    (h : ∀ item ∈ items, ReadsBack style item) : ReadsBack style (.array items) := by
  intro fuel level room rest hdepth hfuel _
  obtain ⟨fuel, rfl⟩ := Nat.exists_eq_succ_of_ne_zero (Nat.ne_zero_of_lt hfuel)
  change depthOfItems items < room at hdepth
  have hroom : room ≠ 0 := Nat.ne_zero_of_lt hdepth
  have hinside := depthOfItems_le_iff.mp (Nat.le_sub_one_of_lt hdepth)
  cases items with
  | nil =>
    rw [write_array_nil, List.cons_append]
    change (if room = 0 then _ else _) = _
    rw [if_neg hroom]
    rfl
  | cons item items =>
    simp only [write_array_cons, List.length_append, List.length_cons] at hfuel
    have hread := readItems_write style (level + 1) level h fuel hinside
      (by simp only [List.length_append]; omega) rest
    obtain ⟨c, cs, hcs, hstart⟩ := exists_head_write style (level + 1) item
      (writeItems style (level + 1) items ++ (lineBreak style level ++ ']' :: rest))
    rw [write_array_cons]
    simp only [List.append_assoc, List.cons_append, List.nil_append]
    change (if room = 0 then _ else _) = _
    rw [if_neg hroom,
      skipBlanks_lineBreak style (level + 1) (isTight_write style (level + 1) item _)]
    rw [hcs] at hread ⊢
    split
    · next hclosed =>
      obtain ⟨rfl, -⟩ := List.cons.inj hclosed
      exact absurd hstart (by decide)
    · simp only [hread, bind, Except.bind]
      rfl

theorem readsBack_object (style : Style) {fields : Table Value}
    (hnames : (Table.names fields).Nodup)
    (h : ∀ field ∈ fields, ReadsBack style field.2) : ReadsBack style (.object fields) := by
  intro fuel level room rest hdepth hfuel _
  obtain ⟨fuel, rfl⟩ := Nat.exists_eq_succ_of_ne_zero (Nat.ne_zero_of_lt hfuel)
  change depthOfFields fields < room at hdepth
  have hroom : room ≠ 0 := Nat.ne_zero_of_lt hdepth
  have hinside := depthOfFields_le_iff.mp (Nat.le_sub_one_of_lt hdepth)
  cases fields with
  | nil =>
    rw [write_object_nil, List.cons_append]
    change (if room = 0 then _ else _) = _
    rw [if_neg hroom]
    rfl
  | cons field fields =>
    simp only [write_object_cons, List.length_append, List.length_cons] at hfuel
    have hread := readFields_write style (level + 1) level h fuel hinside
      (by simp only [List.length_append]; omega) rest
    obtain ⟨cs, hcs⟩ := exists_head_writeField style (level + 1) field
      (writeFields style (level + 1) fields ++ (lineBreak style level ++ '\x7d' :: rest))
    have htight := hcs ▸ isTight_cons (c := '\x22') (by decide) cs
    rw [write_object_cons]
    simp only [List.append_assoc, List.cons_append, List.nil_append]
    change (if room = 0 then _ else _) = _
    rw [if_neg hroom,
      skipBlanks_lineBreak style (level + 1) htight]
    rw [hcs] at hread ⊢
    split
    · next hclosed => cases hclosed
    · simp only [hread, bind, Except.bind, Table.ofPairs_of_nodup hnames]
      rfl

/-- **A value that can be read reads back.** -/
theorem IsReadable.readsBack (style : Style) {value : Value} (h : value.IsReadable) :
    ReadsBack style value := by
  induction h with
  | @intro value here inside ih =>
    cases value with
    | null =>
      intro fuel level room rest _ hfuel _
      obtain ⟨fuel, rfl⟩ := Nat.exists_eq_succ_of_ne_zero (Nat.ne_zero_of_lt hfuel)
      exact readValue_word fuel room "null".toList (by simp) rfl
    | bool b =>
      intro fuel level room rest _ hfuel _
      obtain ⟨fuel, rfl⟩ := Nat.exists_eq_succ_of_ne_zero (Nat.ne_zero_of_lt hfuel)
      cases b
      · exact readValue_word fuel room "false".toList (by simp) rfl
      · exact readValue_word fuel room "true".toList (by simp) rfl
    | int n => exact readsBack_int style here
    | double x => exact readsBack_double style x
    | string s => exact readsBack_string style s
    | array items => exact readsBack_array style ih
    | object fields =>
      exact readsBack_object style here fun field hfield => ih field.2 (List.mem_map_of_mem hfield)

/-- **The text of a value denotes the value**, where there is room for it. -/
theorem ofJson_write (style : Style) (level : Nat) {room : Nat} {value : Value}
    (h : value.IsReadableWithin room) :
    ofJson room (value.write style level) = .ok value := by
  obtain ⟨c, cs, hcs, hstart⟩ := exists_head_write style level value []
  have htight := isTight_write style level value []
  have hread : readValue (2 * ((value.write style level).length + 1)) room
      (value.write style level ++ []) = .ok (value, []) :=
    h.1.readsBack style _ level h.2 (by omega) nofun
  rw [List.append_nil] at hcs htight hread
  have hmark : ¬['\ufeff'].isPrefixOf (value.write style level) = true := by
    rw [hcs]
    simp only [isNoStart, Bool.or_eq_false_iff, beq_eq_false_iff_ne] at hstart
    simpa using Ne.symm hstart.2
  unfold ofJson
  rw [if_neg hmark, skipBlanks_of_isTight htight, hread]
  rfl

end RequestScript.Value
