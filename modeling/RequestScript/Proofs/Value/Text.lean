import RequestScript.Datum
import RequestScript.Proofs.Value.Numeral
import RequestScript.Proofs.Value.Readable

/-!
# Texts of lists and objects

The text of a list or an object is put together from the texts that the values inside it have there,
which are the same at every depth. Most values have the same text on their own. Integral doubles,
infinities and `nan` are spelt in two ways, and so the text of a list in which one stands is not put
together from the texts that its items have on their own.
-/

namespace RequestScript.Value

open Text Double

/-! ## Putting texts together -/

/-- The text of a list whose items have these texts. -/
def textOfItems (texts : List String) : String :=
  "[" ++ ",".intercalate texts ++ "]"

/-- The text of an object whose fields have these texts. -/
def textOfFields (texts : Table String) : String :=
  "\x7b" ++ ",".intercalate (texts.map fun field => (string field.1).compact ++ ":" ++ field.2) ++
    "\x7d"

theorem toList_textOfItems (texts : List String) :
    (textOfItems texts).toList = '[' :: join [','] (texts.map String.toList) ++ [']'] := by
  simp [textOfItems, String.toList_intercalate, join_eq_intercalate]

theorem toList_textOfFields (texts : Table String) :
    (textOfFields texts).toList = '\x7b' :: join [','] (texts.map fun field =>
      (string field.1).compact.toList ++ ':' :: field.2.toList) ++ ['\x7d'] := by
  simp [textOfFields, String.toList_intercalate, join_eq_intercalate, Function.comp_def]

theorem join_cons (first : List Char) (texts : List (List Char)) :
    join [','] (first :: texts) = first ++ texts.flatMap (',' :: ·) := by
  induction texts generalizing first with
  | nil => simp [join]
  | cons next more ih => rw [join, ih] <;> simp

theorem write_compact_array (level : Nat) (items : List Value) :
    (array items).write .compact level =
      '[' :: join [','] (items.map (write .compact (level + 1))) ++ [']'] := by
  have hmore (items : List Value) : writeItems .compact (level + 1) items =
      (items.map (write .compact (level + 1))).flatMap (',' :: ·) := by
    induction items with
    | nil => rfl
    | cons item rest ih => rw [writeItems_cons, ih]; rfl
  cases items with
  | nil => rfl
  | cons item items =>
    rw [write_array_cons, hmore, List.map_cons, join_cons]
    simp [lineBreak, Style.compact]

theorem write_compact_object (level : Nat) (fields : Table Value) :
    (object fields).write .compact level =
      '\x7b' :: join [','] (fields.map (writeField .compact (level + 1))) ++ ['\x7d'] := by
  have hmore (fields : Table Value) : writeFields .compact (level + 1) fields =
      (fields.map (writeField .compact (level + 1))).flatMap (',' :: ·) := by
    induction fields with
    | nil => rfl
    | cons field rest ih => rw [writeFields_cons, ih]; rfl
  cases fields with
  | nil => rfl
  | cons field fields =>
    rw [write_object_cons, hmore, List.map_cons, join_cons]
    simp [lineBreak, Style.compact]

/-- A compact text has no line breaks, so that the level of nesting makes no difference. -/
theorem write_compact (value : Value) (level : Nat) :
    value.write .compact level = value.compact.toList := by
  rw [compact, String.toList_ofList]
  induction value using inductionOn generalizing level with
  | h value ih =>
    cases value with
    | null | int | double | string => rfl
    | bool b => cases b <;> rfl
    | array items =>
      have hitems : items.map (write .compact (level + 1)) = items.map (write .compact 1) :=
        List.map_congr_left fun item hitem => (ih item hitem _).trans (ih item hitem 1).symm
      rw [write_compact_array, write_compact_array, hitems]
    | object fields =>
      have hfields : fields.map (writeField .compact (level + 1)) =
          fields.map (writeField .compact 1) := by
        refine List.map_congr_left fun ⟨name, value⟩ hfield => ?_
        have hvalue := ih value (List.mem_map_of_mem hfield)
        rw [writeField_mk, writeField_mk, hvalue, ← hvalue 1]
      rw [write_compact_object, write_compact_object, hfields]

theorem text_array (items : List Value) :
    (array items).text = textOfItems (items.map compact) := by
  refine String.toList_inj.mp ?_
  have hitems : items.map (write .compact 1) = items.map (String.toList ∘ compact) :=
    List.map_congr_left fun item _ => write_compact item 1
  rw [toList_textOfItems, List.map_map, ← hitems, ← write_compact_array 0]
  exact (write_compact (array items) 0).symm

theorem text_object (fields : Table Value) :
    (object fields).text = textOfFields (fields.mapValues compact) := by
  refine String.toList_inj.mp ?_
  have hfields : fields.map (writeField .compact 1) = fields.map fun field =>
      (string field.1).compact.toList ++ ':' :: field.2.compact.toList := by
    refine List.map_congr_left fun ⟨name, value⟩ _ => ?_
    rw [writeField_mk, ← write_compact (string name) 0, write_string, ← write_compact value 1]
    simp [colon, Style.compact]
  rw [toList_textOfFields, Table.mapValues, List.map_map]
  change _ = '\x7b' :: join [','] (fields.map fun field =>
    (string field.1).compact.toList ++ ':' :: field.2.compact.toList) ++ ['\x7d']
  rw [← hfields, ← write_compact_object 0]
  exact (write_compact (object fields) 0).symm

/-! ## Two spellings -/

/-- Whether a value is spelt in two ways, one on its own and one inside lists and objects: so are
integral doubles, infinities and `nan`. -/
def isRespelled : Value → Bool
  | .double (.finite negative code) => (toInt? (.finite negative code)).isSome
  | .double _ => true
  | _ => false

theorem comma_not_mem_of_digits {digits : List Char} (h : ∀ c ∈ digits, isAsciiDigit c = true) :
    ',' ∉ digits := fun hcomma => absurd (h ',' hcomma) (by decide)

theorem comma_not_mem_numeral {numeral : Numeral} (h : numeral.WellFormed) :
    ',' ∉ numeral.text := by
  have hwhole := comma_not_mem_of_digits h.whole
  have hfraction : ',' ∉ (numeral.fraction.map ('.' :: ·)).getD [] := by
    cases hsome : numeral.fraction with
    | none => exact List.not_mem_nil
    | some fraction =>
      have hdigits := comma_not_mem_of_digits (h.fraction fraction hsome).2
      simpa using hdigits
  have hexponent : ',' ∉ (numeral.exponent.map exponentText).getD [] := by
    cases numeral.exponent with
    | none => exact List.not_mem_nil
    | some exponent =>
      have hdigits : ',' ∉ padded 2 exponent.natAbs := comma_not_mem_of_digits fun _ =>
        isDigit_of_mem_padded
      simp only [Option.map_some, Option.getD_some, exponentText, List.mem_cons, not_or]
      refine ⟨by decide, ?_, hdigits⟩
      split <;> decide
  simp only [Numeral.text, List.mem_append, not_or]
  exact ⟨⟨hwhole, hfraction⟩, hexponent⟩

/-- The numeral of a double has a point or an exponent. -/
theorem exists_mark {numeral : Numeral} (h : numeral.WellFormed) :
    ∃ c ∈ numeral.text, c = '.' ∨ c = 'e' := by
  rcases h.given with hfraction | hexponent
  · obtain ⟨fraction, hsome⟩ := Option.isSome_iff_exists.mp hfraction
    exact ⟨'.', by simp [Numeral.text, hsome], .inl rfl⟩
  · obtain ⟨exponent, hsome⟩ := Option.isSome_iff_exists.mp hexponent
    exact ⟨'e', by simp [Numeral.text, hsome, exponentText], .inr rfl⟩

theorem mem_signed_iff {negative : Bool} {cs : List Char} {c : Char} (hc : c ≠ '-') :
    c ∈ signed negative cs ↔ c ∈ cs := by
  cases negative <;> simp [signed, hc]

/-- What is spelt in two ways has no comma in either, and the two differ. -/
theorem spellings_of_isRespelled {value : Value} (h : value.isRespelled = true) :
    value.text ≠ value.compact ∧ ',' ∉ value.text.toList ∧ ',' ∉ value.compact.toList := by
  rw [← String.toList_inj.ne, ← write_compact value 0]
  cases value with
  | double x =>
    cases x with
    | nan => decide
    | infinite negative => cases negative <;> decide
    | finite negative code =>
      obtain ⟨n, hn⟩ := Option.isSome_iff_exists.mp h
      obtain ⟨numeral, hnumeral, hmagnitude, -⟩ := exists_numeral code.isLt
      have htext : (double (.finite negative code)).text.toList = decimalInt n := by
        simp [text, hn]
      have hdigits {c : Char} (hc : c ∈ decimalInt n) (hminus : c ≠ '-') :
          isAsciiDigit c = true := by
        rw [decimalInt_eq_signed, mem_signed_iff hminus] at hc
        exact isDigit_of_mem_decimal hc
      rw [htext, write_double, writeDouble_finite, hmagnitude, mem_signed_iff (by decide)]
      refine ⟨fun heq => ?_, fun hcomma => ?_, comma_not_mem_numeral hnumeral⟩
      · obtain ⟨c, hmem, hmark⟩ := exists_mark hnumeral
        have hcase : isAsciiDigit c = false ∧ c ≠ '-' := by
          rcases hmark with rfl | rfl <;> decide
        have hdigit := hdigits (heq ▸ (mem_signed_iff hcase.2).mpr hmem) hcase.2
        rw [hcase.1] at hdigit
        cases hdigit
      · exact absurd (hdigits hcomma (by decide)) (by decide)
  | _ => cases h

/-- What is not spelt in two ways has the same text on its own and inside, unless it is a string. -/
theorem text_eq_compact {value : Value} (hstring : ∀ s, value ≠ .string s)
    (h : value.isRespelled = false) : value.text = value.compact := by
  cases value with
  | null | int | array | object => rfl
  | bool b => cases b <;> rfl
  | string s => exact absurd rfl (hstring s)
  | double x =>
    cases x with
    | nan | infinite => cases h
    | finite negative code =>
      have hnone : toInt? (.finite negative code) = none :=
        Option.not_isSome_iff_eq_none.mp (Bool.eq_false_iff.mp h)
      simp [text, hnone, compact, write_double, writeDouble]

theorem text_eq_compact_iff {value : Value} (hstring : ∀ s, value ≠ .string s) :
    value.text = value.compact ↔ value.isRespelled = false := by
  refine ⟨fun heq => ?_, text_eq_compact hstring⟩
  by_contra hrespelled
  exact (spellings_of_isRespelled (by simpa using hrespelled)).1 heq

/-- Texts are joined by commas in one way, if those that differ have no comma. -/
theorem eq_of_join_eq {α : Type} (front text other : α → List Char) {xs : List α}
    (h : ∀ x ∈ xs, text x = other x ∨ ',' ∉ text x ∧ ',' ∉ other x)
    (heq : join [','] (xs.map fun x => front x ++ text x) =
      join [','] (xs.map fun x => front x ++ other x)) : ∀ x ∈ xs, text x = other x := by
  induction xs with
  | nil => exact nofun
  | cons x rest ih =>
    obtain ⟨hx, hrest⟩ := List.forall_mem_cons.mp h
    rw [List.forall_mem_cons]
    cases rest with
    | nil => exact ⟨List.append_cancel_left heq, nofun⟩
    | cons y more =>
      simp only [List.map_cons, join, List.append_assoc, List.append_cancel_left_eq,
        List.cons_append, List.nil_append] at heq ih
      rcases hx with hsame | ⟨htext, hother⟩
      · rw [hsame] at heq
        exact ⟨hsame, ih hrest (List.cons.inj (List.append_cancel_left heq)).2⟩
      · have hcut := congrArg (cut? ',') heq
        rw [cut?_append htext, cut?_append hother] at hcut
        obtain ⟨hsame, hmore⟩ := Prod.mk.inj (Option.some.inj hcut)
        exact ⟨hsame, ih hrest hmore⟩

/-- A text that a value has inside and its own text are the same, or neither has a comma. -/
theorem compact_cases {value : Value} (hstring : ∀ s, value ≠ .string s) :
    value.compact.toList = value.text.toList ∨
      ',' ∉ value.compact.toList ∧ ',' ∉ value.text.toList := by
  cases hrespelled : value.isRespelled with
  | false => exact .inl (congrArg String.toList (text_eq_compact hstring hrespelled)).symm
  | true => exact .inr (spellings_of_isRespelled hrespelled).2.symm

theorem text_array_iff {items : List Value} (h : ∀ item ∈ items, ∀ s, item ≠ .string s) :
    (array items).text = textOfItems (items.map text) ↔
      ∀ item ∈ items, item.isRespelled = false := by
  rw [text_array]
  constructor
  · intro heq item hitem
    have hjoined := congrArg String.toList heq
    simp only [toList_textOfItems, List.cons.injEq, true_and, List.append_cancel_right_eq,
      List.map_map] at hjoined
    have hsame := eq_of_join_eq (fun _ => []) (String.toList ∘ compact) (String.toList ∘ text)
      (fun item hitem => compact_cases (h item hitem)) hjoined
    exact (text_eq_compact_iff (h item hitem)).mp (String.toList_inj.mp (hsame item hitem)).symm
  · intro hspelled
    congr 1
    exact List.map_congr_left fun item hitem =>
      (text_eq_compact (h item hitem) (hspelled item hitem)).symm

theorem text_object_iff {fields : Table Value} (h : ∀ field ∈ fields, ∀ s, field.2 ≠ .string s) :
    (object fields).text = textOfFields (fields.mapValues text) ↔
      ∀ field ∈ fields, field.2.isRespelled = false := by
  rw [text_object]
  constructor
  · intro heq field hfield
    have hjoined := congrArg String.toList heq
    simp only [toList_textOfFields, Table.mapValues, List.cons.injEq, true_and,
      List.append_cancel_right_eq, List.map_map] at hjoined
    have hsame := eq_of_join_eq
      (fun field : String × Value => (string field.1).compact.toList ++ [':'])
      (fun field => field.2.compact.toList) (fun field => field.2.text.toList)
      (fun field hfield => compact_cases (h field hfield))
      (by simpa [Function.comp_def] using hjoined)
    exact (text_eq_compact_iff (h field hfield)).mp (String.toList_inj.mp (hsame field hfield)).symm
  · intro hspelled
    congr 1
    exact List.map_congr_left fun field hfield => by
      rw [text_eq_compact (h field hfield) (hspelled field hfield)]

/-- **The text of a list or an object is put together from the texts of what is in it**, strings
apart, exactly where nothing in it is spelt in two ways. There is a text if everything in it has
one. Where nothing is spelt in two ways, a value has the same text on its own and at every depth. -/
theorem text_compositional_iff {items : List Value} {fields : Table Value}
    (hitems : ∀ item ∈ items, ∀ s, item ≠ .string s)
    (hfields : ∀ field ∈ fields, ∀ s, field.2 ≠ .string s) :
    ((array items).text = textOfItems (items.map text) ↔
        ∀ item ∈ items, item.isRespelled = false) ∧
      ((array items).isWritable = true ↔ ∀ item ∈ items, item.isWritable = true) ∧
      ((object fields).text = textOfFields (fields.mapValues text) ↔
        ∀ field ∈ fields, field.2.isRespelled = false) ∧
      ((object fields).isWritable = true ↔ ∀ field ∈ fields, field.2.isWritable = true) ∧
      ∀ value : Value, (∀ s, value ≠ .string s) → ∀ level,
        (String.ofList (value.write .compact level) = value.text ↔ value.isRespelled = false) := by
  refine ⟨text_array_iff hitems, areWritable_iff, text_object_iff hfields, areFieldsWritable_iff,
    fun value hstring level => ?_⟩
  rw [write_compact, String.ofList_toList, eq_comm]
  exact text_eq_compact_iff hstring

theorem text_compositional_half :
    (array [.double (.ofDecimal false 15 (-1)), .bool true, .null, .array [.int (-3)]]).text =
        textOfItems ["1.5", "true", "null", "[-3]"] ∧
      (object [("a,\"", .array [.string ","]), ("b", .object [])]).text =
        textOfFields [("a,\"", "[\",\"]"), ("b", "\x7b\x7d")] := by
  let items : List Value :=
    [.double (.ofDecimal false 15 (-1)), .bool true, .null, .array [.int (-3)]]
  let fields : Table Value := [("a,\"", .array [.string ","]), ("b", .object [])]
  have hspelled : ∀ item ∈ items, item.isRespelled = false := by decide +kernel
  have hfields : ∀ field ∈ fields, field.2.isRespelled = false := by decide +kernel
  obtain ⟨hlist, -, hobject, -⟩ := @text_compositional_iff items fields
    (by simp [items]) (by simp [fields])
  have htexts : items.map text = ["1.5", "true", "null", "[-3]"] := by decide +kernel
  have hvalues : fields.mapValues text = [("a,\"", "[\",\"]"), ("b", "\x7b\x7d")] := by
    decide +kernel
  exact ⟨htexts ▸ hlist.mpr hspelled, hvalues ▸ hobject.mpr hfields⟩

/-- An integral double has a fraction inside a list and none on its own. -/
theorem text_of_integral_double :
    ¬∀ items : List Value, (∀ item ∈ items, ∀ s, item ≠ .string s) →
      (array items).text = textOfItems (items.map text) := by
  intro hcomposed
  have htexts := hcomposed [.double (.ofDecimal false 1 0)] (by simp)
  have hlist : (array [.double (.ofDecimal false 1 0)]).text = "[1.0]" := by decide +kernel
  have hitem : (double (.ofDecimal false 1 0)).text = "1" := by decide +kernel
  rw [hlist, List.map_singleton, hitem] at htexts
  exact absurd htexts (by decide +kernel)

end RequestScript.Value
