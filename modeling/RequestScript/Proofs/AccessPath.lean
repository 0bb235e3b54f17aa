import RequestScript.AccessPath
import RequestScript.Proofs.Text.Blank
import RequestScript.Proofs.Text.Numeral

/-!
# Paths to places

Every place inside a value has a path: the keys on the way to it joined by dots, and each list
position in brackets or as a part of its own. The path leads to the place, and a path with a
position beyond the end of its list leads nowhere.
-/

namespace RequestScript

open Text

/-- A step from a value into it, as it is written in a path. -/
inductive PathStep where
  /-- To a field of an object. -/
  | field (name : String)
  /-- To a list position, which is written in brackets or as a part of its own. -/
  | item (position : Nat) (isBracketed : Bool)

namespace PathStep

/-- The text of a step behind other steps. -/
def text : PathStep → List Char
  | .field name => '.' :: name.toList
  | .item position true => '[' :: (decimal position ++ [']'])
  | .item position false => '.' :: decimal position

/-- The path of some steps. No dot comes before the first of them. -/
def write (steps : List PathStep) : String :=
  match steps.flatMap text with
  | '.' :: rest => String.ofList rest
  | cs => String.ofList cs

/-- A key has characters, and neither dots nor opening brackets nor blanks among them; a position
has few enough digits to be read. -/
def IsWritable : PathStep → Prop
  | .field name => name ≠ "" ∧ ∀ c ∈ name.toList, c ≠ '.' ∧ c ≠ '[' ∧ isBlank c = false
  | .item position _ => (decimal position).length ≤ digitLimit

instance : (step : PathStep) → Decidable step.IsWritable
  -- The characters of the name are gone through, not all characters that there are.
  | .field name => @instDecidableAnd _ _ inferInstance (List.decidableBAll _ name.toList)
  | .item _ _ => inferInstanceAs (Decidable (_ ≤ _))

/-- Steps lead from a value to a value inside it. -/
inductive Leads : Value → List PathStep → Value → Prop
  /-- No step leads to the value itself. -/
  | here (value : Value) : Leads value [] value
  /-- A step to a field, and on from there. -/
  | field {fields : Table Value} {name : String} {next found : Value} {steps : List PathStep} :
      Table.get? fields name = some next → Leads next steps found →
      Leads (.object fields) (.field name :: steps) found
  /-- A step to an item, and on from there. -/
  | item {items : List Value} {position : Nat} {isBracketed : Bool} {next found : Value}
      {steps : List PathStep} :
      items[position]? = some next → Leads next steps found →
      Leads (.array items) (.item position isBracketed :: steps) found

/-- What a step is read as. -/
def read : PathStep → AccessStep
  | .field name => .key name
  | .item position true => .index position
  | .item position false => .key (String.ofList (decimal position))

variable {steps front back : List PathStep} {value found : Value} {position : Nat}
  {isBracketed : Bool}

/-- On the way to a place, the steps before a list position lead to a list that has the
position. -/
theorem Leads.exists_items (h : Leads value (front ++ .item position isBracketed :: back) found) :
    ∃ items, Leads value front (.array items) ∧ position < items.length := by
  induction front generalizing value with
  | nil =>
    cases h with
    | item hitem _ => exact ⟨_, .here _, (List.getElem?_eq_some_iff.mp hitem).1⟩
  | cons step front ih =>
    cases h with
    | field hfield hrest =>
      obtain ⟨items, hitems, hlength⟩ := ih hrest
      exact ⟨items, .field hfield hitems, hlength⟩
    | item hitem hrest =>
      obtain ⟨items, hitems, hlength⟩ := ih hrest
      exact ⟨items, .item hitem hitems, hlength⟩

/-! ## The characters of a path -/

/-- A digit is neither a dot nor an opening bracket nor a blank. -/
theorem digit_spec {c : Char} (h : c.isDigit = true) : c ≠ '.' ∧ c ≠ '[' ∧ isBlank c = false := by
  refine ⟨?_, ?_, (isDigit_spec h).2.1⟩
  · rintro rfl
    revert h
    decide
  · rintro rfl
    revert h
    decide

/-- The numeral of a position has neither dots nor opening brackets nor blanks. -/
theorem decimal_spec {c : Char} (h : c ∈ decimal position) :
    c ≠ '.' ∧ c ≠ '[' ∧ isBlank c = false :=
  digit_spec (isDigit_of_mem_decimal h)

/-- A path has no blanks. -/
theorem isBlank_of_mem_write (h : ∀ step ∈ steps, step.IsWritable) :
    ∀ c ∈ (write steps).toList, isBlank c = false := by
  have htext : ∀ c ∈ steps.flatMap text, isBlank c = false := by
    intro c hc
    obtain ⟨step, hstep, hc⟩ := List.mem_flatMap.mp hc
    have hwritable := h step hstep
    match step with
    | .field name =>
      rcases List.mem_cons.mp hc with rfl | hc
      · decide
      · exact (hwritable.2 c hc).2.2
    | .item position true =>
      simp only [text, List.mem_cons, List.mem_append, List.not_mem_nil, or_false] at hc
      rcases hc with rfl | hc | rfl
      · decide
      · exact (decimal_spec hc).2.2
      · decide
    | .item position false =>
      rcases List.mem_cons.mp hc with rfl | hc
      · decide
      · exact (decimal_spec hc).2.2
  unfold write
  intro c hc
  split at hc
  · next rest hrest =>
    rw [String.toList_ofList] at hc
    exact htext c (hrest ▸ List.mem_cons_of_mem _ hc)
  · next hcs =>
    rw [String.toList_ofList] at hc
    exact htext c hc

end PathStep

namespace AccessPath

open PathStep

/-! ## Parts -/

/-- The steps that the parts of a text between dots stand for. -/
def stepsOfParts (cs : List Char) : Except Fault (List AccessStep) := do
  return (← ((pieces '.' cs).filter (!·.isEmpty)).mapM stepsOfPart).flatten

theorem steps_eq (path : String) : steps path = stepsOfParts (trim path.toList) := rfl

/-- A dot divides the steps before it from those behind it. -/
theorem stepsOfParts_append (front back : List Char) :
    stepsOfParts (front ++ '.' :: back) = do
      return (← stepsOfParts front) ++ (← stepsOfParts back) := by
  unfold stepsOfParts
  rw [pieces_append, List.filter_append, List.mapM_append]
  cases ((pieces '.' front).filter (!·.isEmpty)).mapM stepsOfPart with
  | error fault => rfl
  | ok before =>
    cases ((pieces '.' back).filter (!·.isEmpty)).mapM stepsOfPart with
    | error fault => rfl
    | ok behind => exact congrArg Except.ok List.flatten_append

/-- A text without dots is one part. -/
theorem stepsOfParts_of_not_mem {part : List Char} (hne : part ≠ []) (hdot : '.' ∉ part) :
    stepsOfParts part = stepsOfPart part := by
  have hempty : part.isEmpty = false := by simpa using hne
  rw [stepsOfParts, pieces_of_not_mem hdot, List.filter_cons_of_pos (by simp [hempty]),
    List.filter_nil, List.mapM_cons, List.mapM_nil]
  cases stepsOfPart part with
  | error fault => rfl
  | ok steps => exact congrArg Except.ok (List.append_nil steps)

/-- A dot at the start of a path changes nothing. -/
theorem stepsOfParts_cons_dot (cs : List Char) : stepsOfParts ('.' :: cs) = stepsOfParts cs := by
  have hnone : stepsOfParts [] = .ok [] := rfl
  rw [← List.nil_append ('.' :: cs), stepsOfParts_append, hnone]
  cases stepsOfParts cs <;> rfl

/-! ## List positions -/

/-- List positions in brackets, one behind the other. -/
def bracketed (positions : List Nat) : List Char :=
  (positions.map fun position => PathStep.item position true).flatMap text

theorem bracketed_cons (n : Nat) (positions : List Nat) :
    bracketed (n :: positions) = '[' :: (decimal n ++ ']' :: bracketed positions) := by
  simp [bracketed, text]

theorem bracketed_concat (positions : List Nat) (n : Nat) :
    bracketed (positions ++ [n]) = bracketed positions ++ (PathStep.item n true).text := by
  simp [bracketed]

theorem length_le_length_bracketed (positions : List Nat) :
    positions.length ≤ (bracketed positions).length := by
  induction positions with
  | nil => exact Nat.le_refl 0
  | cons n rest ih =>
    rw [bracketed_cons]
    simp only [List.length_cons, List.length_append]
    omega

/-- No line feed ends a text of digits. -/
theorem dropFinalLineFeed_digits {digits : List Char} (h : ∀ c ∈ digits, c.isDigit = true) :
    dropFinalLineFeed digits = digits :=
  dropFinalLineFeed_of_getLast? fun hlast =>
    absurd (h '\n' (List.mem_of_getLast? hlast)) (by decide)

/-- No line feed ends positions in brackets. -/
theorem dropFinalLineFeed_bracketed (positions : List Nat) :
    dropFinalLineFeed (bracketed positions) = bracketed positions := by
  refine dropFinalLineFeed_of_getLast? ?_
  rcases List.eq_nil_or_concat' positions with rfl | ⟨front, n, rfl⟩
  · simp [bracketed]
  · have htext : (PathStep.item n true).text = ('[' :: decimal n) ++ [']'] := rfl
    rw [bracketed_concat, htext, ← List.append_assoc, List.getLast?_concat]
    simp

/-- Positions in brackets are read up to the end. -/
theorem brackets?_bracketed {positions : List Nat} (hne : positions ≠ []) {fuel : Nat}
    (hfuel : positions.length ≤ fuel) :
    brackets? fuel (bracketed positions) = some (positions.map decimal) := by
  induction positions generalizing fuel with
  | nil => exact absurd rfl hne
  | cons n rest ih =>
    obtain ⟨more, rfl⟩ := Nat.exists_eq_add_one.mpr (Nat.lt_of_lt_of_le (Nat.succ_pos _) hfuel)
    have hclose : isDigit ']' = false := by decide
    have hdigits : (decimal n ++ ']' :: bracketed rest).takeWhile isDigit = decimal n := by
      rw [List.takeWhile_append_of_pos fun c hc => (isDigit_spec (isDigit_of_mem_decimal hc)).1,
        List.takeWhile_cons_of_neg (by simp [hclose]), List.append_nil]
    have hempty : (decimal n).isEmpty = false := by simp [decimal_ne_nil]
    rw [bracketed_cons, brackets?]
    simp only [hdigits, hempty, Bool.false_eq_true, if_false, List.drop_left]
    cases rest with
    | nil => rfl
    | cons next rest =>
      have hrest := ih (List.cons_ne_nil next rest) (Nat.le_of_succ_le_succ hfuel)
      rw [bracketed_cons] at hrest ⊢
      simp only [hrest]
      rfl

theorem position_decimal {n : Nat} (h : (decimal n).length ≤ digitLimit) :
    position (decimal n) = .ok n := by
  rw [position, readNat?, if_pos h, natOfDigits_decimal]

theorem mapM_position_decimal {positions : List Nat}
    (h : ∀ n ∈ positions, (decimal n).length ≤ digitLimit) :
    (positions.map decimal).mapM position = .ok positions := by
  induction positions with
  | nil => rfl
  | cons n rest ih =>
    obtain ⟨hn, hrest⟩ := List.forall_mem_cons.mp h
    rw [List.map_cons, List.mapM_cons, position_decimal hn, ih hrest]
    rfl

/-! ## Keys with positions behind them -/

/-- A key that can be written, or none, and positions behind it that can be read. -/
structure IsPart (key : List Char) (positions : List Nat) : Prop where
  plain : ∀ c ∈ key, c ≠ '.' ∧ c ≠ '[' ∧ isBlank c = false
  short : ∀ n ∈ positions, (decimal n).length ≤ digitLimit

/-- The steps that a key with positions behind it stands for. -/
def partSteps (key : List Char) (positions : List Nat) : List AccessStep :=
  (if key.isEmpty then [] else [.key (String.ofList key)]) ++ positions.map .index

variable {key : List Char} {positions : List Nat} {steps : List PathStep}

theorem IsPart.not_mem (h : IsPart key positions) : '.' ∉ key ++ bracketed positions := by
  intro hmem
  rcases List.mem_append.mp hmem with hkey | hbrackets
  · exact (h.plain '.' hkey).1 rfl
  · obtain ⟨step, hstep, hdot⟩ := List.mem_flatMap.mp hbrackets
    obtain ⟨n, -, rfl⟩ := List.mem_map.mp hstep
    simp only [text, List.mem_cons, List.mem_append, List.not_mem_nil, or_false] at hdot
    rcases hdot with hdot | hdot | hdot
    · exact absurd hdot (by decide)
    · exact (decimal_spec hdot).1 rfl
    · exact absurd hdot (by decide)

/-- The key ends where the first bracket opens. -/
theorem IsPart.takeWhile_eq (h : IsPart key positions) :
    (key ++ bracketed positions).takeWhile (· != '[') = key := by
  have hkey : ∀ c ∈ key, (c != '[') = true := fun c hc => by simpa using (h.plain c hc).2.1
  rw [List.takeWhile_append_of_pos hkey]
  cases positions with
  | nil => exact List.append_nil key
  | cons n rest => rw [bracketed_cons, List.takeWhile_cons_of_neg (by simp), List.append_nil]

/-- A key and positions are read as such, and nothing where there is neither. -/
theorem IsPart.stepsOfParts_eq (h : IsPart key positions) :
    stepsOfParts (key ++ bracketed positions) = .ok (partSteps key positions) := by
  by_cases hempty : key ++ bracketed positions = []
  · obtain ⟨rfl, hbrackets⟩ := List.append_eq_nil_iff.mp hempty
    have hnone : positions = [] := by
      simpa [hbrackets] using length_le_length_bracketed positions
    subst hnone
    rfl
  · rw [stepsOfParts_of_not_mem hempty h.not_mem, stepsOfPart]
    simp only [h.takeWhile_eq, List.drop_left, dropFinalLineFeed_bracketed]
    cases positions with
    | nil =>
      have hne : key ≠ [] := by simpa [bracketed] using hempty
      have hnone : brackets? ((bracketed []).length + 1) (bracketed []) = none := rfl
      have hwhole : key ++ bracketed [] = key := List.append_nil key
      simp only [hnone, hwhole]
      simp [partSteps, hne]
    | cons n rest =>
      have hgroups := brackets?_bracketed (List.cons_ne_nil n rest)
        (Nat.le_succ_of_le (length_le_length_bracketed (n :: rest)))
      simp only [hgroups, mapM_position_decimal h.short]
      rfl

/-! ## Whole paths -/

/-- Steps behind a key with positions are read one by one. -/
theorem IsPart.stepsOfParts_append (h : IsPart key positions)
    (hsteps : ∀ step ∈ steps, step.IsWritable) :
    stepsOfParts (key ++ bracketed positions ++ steps.flatMap text) =
      .ok (partSteps key positions ++ steps.map PathStep.read) := by
  -- The induction is on the steps. One in brackets is a further position, and any other one begins
  -- the next part.
  induction steps generalizing key positions with
  | nil => rw [List.flatMap_nil, List.append_nil, h.stepsOfParts_eq, List.map_nil, List.append_nil]
  | cons step steps ih =>
    obtain ⟨hstep, hrest⟩ := List.forall_mem_cons.mp hsteps
    have hnext {name : List Char} (hname : IsPart name []) (hne : name ≠ [])
        (htext : step.text = '.' :: name) (hread : step.read = .key (String.ofList name)) :
        stepsOfParts (key ++ bracketed positions ++ (step :: steps).flatMap text) =
          .ok (partSteps key positions ++ (step :: steps).map PathStep.read) := by
      have hbehind := ih hname hrest
      have hnothing : bracketed [] = [] := rfl
      rw [hnothing, List.append_nil] at hbehind
      rw [List.flatMap_cons, htext, List.cons_append, AccessPath.stepsOfParts_append,
        h.stepsOfParts_eq, hbehind, List.map_cons, hread]
      simp [partSteps, hne, bind, Except.bind, pure, Except.pure]
    match step with
    | .field name =>
      exact hnext ⟨hstep.2, nofun⟩ (by simpa using hstep.1) rfl (by rw [String.ofList_toList]; rfl)
    | .item n false =>
      exact hnext ⟨fun c hc => decimal_spec hc, nofun⟩ (decimal_ne_nil n) rfl rfl
    | .item n true =>
      have hlonger : IsPart key (positions ++ [n]) :=
        ⟨h.plain, List.forall_mem_append.mpr ⟨h.short, List.forall_mem_singleton.mpr hstep⟩⟩
      have hall := ih hlonger hrest
      rw [bracketed_concat, ← List.append_assoc, List.append_assoc (key ++ bracketed positions)]
        at hall
      rw [List.flatMap_cons, hall]
      simp [partSteps, PathStep.read]

/-- A path that is written is read as its steps. -/
theorem steps_write (h : ∀ step ∈ steps, step.IsWritable) :
    AccessPath.steps (PathStep.write steps) = .ok (steps.map PathStep.read) := by
  have hnone : IsPart [] [] := ⟨nofun, nofun⟩
  have hall : stepsOfParts (steps.flatMap text) = .ok (steps.map PathStep.read) :=
    hnone.stepsOfParts_append h
  rw [steps_eq, trim_of_forall (isBlank_of_mem_write h), PathStep.write]
  split
  · next rest hrest => rw [String.toList_ofList, ← hall, hrest, stepsOfParts_cons_dot]
  · rw [String.toList_ofList, hall]

/-! ## Walking -/

theorem walk_append (value : Value) (front back : List AccessStep) :
    walk value (front ++ back) = do
      match ← walk value front with
      | some next => walk next back
      | none => return none := by
  induction front generalizing value with
  | nil => rfl
  | cons step front ih =>
    rw [List.cons_append, walk, walk]
    cases stepInto value step with
    | error fault => rfl
    | ok next =>
      cases next with
      | none => rfl
      | some next => exact ih next

theorem positionOf_read {n : Nat} (h : (decimal n).length ≤ digitLimit) (isBracketed : Bool) :
    positionOf (PathStep.item n isBracketed).read = .ok (some n) := by
  cases isBracketed with
  | true => rfl
  | false =>
    have hdigits : ∀ c ∈ decimal n, c.isDigit = true := fun c hc => isDigit_of_mem_decimal hc
    have hall : isAll isDigit (decimal n) = true :=
      isAll_iff.mpr ⟨decimal_ne_nil n, fun c hc => (isDigit_spec (hdigits c hc)).1⟩
    rw [PathStep.read, positionOf, positionOfKey, String.toList_ofList,
      dropFinalLineFeed_digits hdigits]
    simp only [hall, if_true, position_decimal h]
    rfl

/-- Steps that lead to a place are walked to it. -/
theorem walk_of_leads {value found : Value} (hsteps : ∀ step ∈ steps, step.IsWritable)
    (h : Leads value steps found) : walk value (steps.map PathStep.read) = .ok (some found) := by
  induction h with
  | here value => rfl
  | @field fields name next found steps hfield hrest ih =>
    have hstep : stepInto (.object fields) (.key name) = .ok (some next) :=
      congrArg Except.ok hfield
    rw [List.map_cons, PathStep.read, walk, hstep]
    exact ih (List.forall_mem_cons.mp hsteps).2
  | @item items n isBracketed next found steps hitem hrest ih =>
    obtain ⟨hn, hsteps⟩ := List.forall_mem_cons.mp hsteps
    have hstep : stepInto (.array items) (PathStep.item n isBracketed).read = .ok (some next) := by
      rw [stepInto, positionOf_read hn]
      exact congrArg Except.ok hitem
    rw [List.map_cons, walk, hstep]
    exact ih hsteps

/-- A position beyond the end of a list leads nowhere. -/
theorem walk_of_length_le {items : List Value} {n : Nat} (hn : (decimal n).length ≤ digitLimit)
    (hlength : items.length ≤ n) (isBracketed : Bool) (steps : List AccessStep) :
    walk (.array items) ((PathStep.item n isBracketed).read :: steps) = .ok none := by
  have hnone : items[n]? = none := List.getElem?_eq_none hlength
  have hstep : stepInto (.array items) (PathStep.item n isBracketed).read = .ok none := by
    rw [stepInto, positionOf_read hn]
    exact congrArg Except.ok hnone
  rw [walk, hstep]
  rfl

/-- Steps into a JSON value are walked. -/
theorem walkDatum_json (value : Value) (steps : List AccessStep) :
    walkDatum (.json value) steps = (walk value steps).map Datum.ofOption := by
  cases steps with
  | nil => rfl
  | cons step steps =>
    simp only [walkDatum]
    cases walk value (step :: steps) <;> rfl

theorem get_json {path : String} {steps : List AccessStep}
    (hsteps : AccessPath.steps path = .ok steps) (value : Value) :
    get (.json value) path = (walk value steps).map Datum.ofOption := by
  rw [get, hsteps]
  exact walkDatum_json value steps

/-- A path that is written leads to what its steps lead to. -/
theorem get_write_eq (value : Value) (hsteps : ∀ step ∈ steps, step.IsWritable) :
    get (.json value) (PathStep.write steps) =
      (walk value (steps.map PathStep.read)).map Datum.ofOption :=
  get_json (steps_write hsteps) value

/-- **Every place can be read.** The path of the steps that lead to a place inside a value leads
there, however each list position on the way is written. With a position beyond the end of its list
in the place of one of them, the path leads nowhere. -/
theorem get_write {value found : Value} (hsteps : ∀ step ∈ steps, step.IsWritable)
    (h : Leads value steps found) :
    get (.json value) (PathStep.write steps) = .ok (.json found) ∧
      ∀ front position isBracketed back, steps = front ++ .item position isBracketed :: back →
        ∃ items, Leads value front (.array items) ∧ position < items.length ∧
          ∀ other, items.length ≤ other → (decimal other).length ≤ digitLimit →
            get (.json value) (PathStep.write (front ++ .item other isBracketed :: back)) =
              .ok .absent := by
  constructor
  · rw [get_write_eq value hsteps, walk_of_leads hsteps h]
    rfl
  · rintro front position isBracketed back rfl
    obtain ⟨items, hitems, hposition⟩ := h.exists_items
    refine ⟨items, hitems, hposition, fun other hlength hother => ?_⟩
    obtain ⟨hfront, hback⟩ := List.forall_mem_append.mp hsteps
    have hchanged : ∀ step ∈ front ++ .item other isBracketed :: back, step.IsWritable :=
      List.forall_mem_append.mpr
        ⟨hfront, List.forall_mem_cons.mpr ⟨hother, (List.forall_mem_cons.mp hback).2⟩⟩
    rw [get_write_eq value hchanged, List.map_append, List.map_cons, walk_append,
      walk_of_leads hfront hitems]
    exact congrArg (Except.map Datum.ofOption) (walk_of_length_le hother hlength isBracketed _)

/-- A number in a list under a key that is a numeral, inside a list. -/
theorem get_write_rows :
    let value : Value := .object [("rows", .array [.object [("0", .array [.int 5, .int 7])]])]
    get (.json value) "rows[0].0.1" = .ok (.json (.int 7)) ∧
      get (.json value) "rows[0].0.2" = .ok .absent := by
  intro value
  have hlist : Leads value [.field "rows", .item 0 true, .field "0"] (.array [.int 5, .int 7]) :=
    .field rfl (.item rfl (.field rfl (.here _)))
  have hleads : Leads value [.field "rows", .item 0 true, .field "0", .item 1 false] (.int 7) :=
    .field rfl (.item rfl (.field rfl (.item rfl (.here _))))
  obtain ⟨hfound, hbeyond⟩ := get_write (by decide) hleads
  obtain ⟨items, hitems, -, habsent⟩ :=
    hbeyond [.field "rows", .item 0 true, .field "0"] 1 false [] rfl
  obtain rfl : items = [.int 5, .int 7] := by
    have hsame := (walk_of_leads (by decide) hitems).symm.trans (walk_of_leads (by decide) hlist)
    exact Value.array.inj (Option.some.inj (Except.ok.inj hsame))
  exact ⟨hfound, habsent 2 (by decide) (by decide)⟩

end AccessPath

end RequestScript
