import RequestScript.AccessPath
import RequestScript.Proofs.Double.Nearest
import RequestScript.Proofs.Text.Radix

/-!
# Data that cannot be followed or compared

An integer has no number where it is too large to be a double, and a text only where it is a numeral
with a radix mark that is too large. A path cannot be followed where a numeral in it has too many
digits: in brackets wherever it stands, and as a key where the key is asked of a list.
-/

namespace RequestScript

open Text

namespace Value

/-! ## Numbers -/

/-- A text denotes an integer that is too large to be a double, as a numeral with a radix mark. -/
def IsHugeText (s : String) : Prop :=
  ∃ n, radixNumeral? (trim s.toList) = some n ∧ Double.overflow ≤ n

/-- A value stands for an integer that is too large to be a double. -/
def IsHuge : Value → Prop
  | .int n => Double.overflow ≤ n.natAbs
  | .string s => IsHugeText s
  | _ => False

theorem doubleOfInt_eq_error_iff {n : Int} {fault : Fault} :
    doubleOfInt n = .error fault ↔ fault = .numberTooLarge ∧ Double.overflow ≤ n.natAbs := by
  rw [← Double.ofInt?_eq_none_iff, doubleOfInt]
  cases Double.ofInt? n <;> simp [eq_comm]

/-- A text has no number where it is a numeral with a radix mark that is too large, and only
there. -/
theorem numberOfText_eq_error_iff {s : String} {fault : Fault} :
    numberOfText s = .error fault ↔ fault = .numberTooLarge ∧ IsHugeText s := by
  unfold numberOfText IsHugeText
  dsimp only
  cases hradix : radixNumeral? (trim s.toList) with
  | some n =>
    have hne : (trim s.toList).isEmpty = false := by
      cases hcs : trim s.toList with
      | nil => simp [hcs, radixNumeral?] at hradix
      | cons => rfl
    simp [hne, (radixNumeral?_eq_some_iff.mp hradix).decimalNumeral?_eq_none,
      doubleOfInt_eq_error_iff]
  | none =>
    repeat' split
    all_goals simp_all

theorem number_eq_error_iff {value : Value} {fault : Fault} :
    value.number = .error fault ↔ fault = .numberTooLarge ∧ value.IsHuge := by
  cases value with
  | int n => exact doubleOfInt_eq_error_iff
  | string s => exact numberOfText_eq_error_iff
  | bool b =>
    have hsmall : ¬Double.overflow ≤ (if b then 1 else 0 : Int).natAbs := by
      have hlarge := Double.one_lt_overflow
      split <;> simp <;> omega
    simp [number, IsHuge, doubleOfInt_eq_error_iff, hsmall]
  | _ => simp [number, IsHuge]

/-- Whether a value is a number cannot be said where it is a text without a number. -/
theorem isNumber_eq_error_iff {value : Value} {fault : Fault} :
    value.isNumber = .error fault ↔
      fault = .numberTooLarge ∧ ∃ s, value = .string s ∧ IsHugeText s := by
  cases value with
  | string s =>
    by_cases hempty : (trim s.toList).isEmpty
    · have hnot : ¬IsHugeText s := by
        rw [List.isEmpty_iff] at hempty
        simp [IsHugeText, hempty, radixNumeral?]
      simp [isNumber, hempty, hnot]
    · simp [isNumber, hempty, map_eq_error_iff, numberOfText_eq_error_iff]
  | _ => simp [isNumber]

end Value

namespace AccessPath

/-! ## Paths -/

/-- The numerals in the brackets that a part between dots ends in. -/
def numeralsOfPart (part : List Char) : List (List Char) :=
  let base := part.takeWhile (· != '[')
  let rest := dropFinalLineFeed (part.drop base.length)
  (brackets? (rest.length + 1) rest).getD []

/-- The numerals in the brackets of a path. -/
def numerals (path : String) : List (List Char) :=
  ((pieces '.' (trim path.toList)).filter (!·.isEmpty)).flatMap numeralsOfPart

/-- A key is a numeral with too many digits to be a position in a list. -/
def IsLongKey (name : String) : Prop :=
  let cs := dropFinalLineFeed name.toList
  isAll isDigit cs = true ∧ digitLimit < cs.length

/-- Some steps from a value lead to a list, of which a key with too many digits is asked next. -/
def AsksLongKey (value : Value) (steps : List AccessStep) : Prop :=
  ∃ front name back items, steps = front ++ .key name :: back ∧
    walk value front = .ok (some (.array items)) ∧ IsLongKey name

/-- A numeral in a path has too many digits: one in brackets, or a key that is asked of a list on
the way from a datum. -/
def IsOverlong (datum : Datum) (path : String) : Prop :=
  (∃ numeral ∈ numerals path, digitLimit < numeral.length) ∨
    ∃ value steps, datum = .json value ∧ AccessPath.steps path = .ok steps ∧ AsksLongKey value steps

variable {fault : Fault}

theorem position_eq_error_iff {digits : List Char} :
    position digits = .error fault ↔ fault = .numeralTooLong ∧ digitLimit < digits.length := by
  unfold position readNat?
  split <;> simp_all [eq_comm]

theorem stepsOfPart_eq_error_iff {part : List Char} :
    stepsOfPart part = .error fault ↔
      fault = .numeralTooLong ∧ ∃ numeral ∈ numeralsOfPart part, digitLimit < numeral.length := by
  unfold stepsOfPart numeralsOfPart
  dsimp only
  split
  · next groups hgroups =>
    have hpositions : groups.mapM position = .error fault ↔
        fault = .numeralTooLong ∧ ∃ numeral ∈ groups, digitLimit < numeral.length :=
      mapM_eq_error_iff_of_cause fun _ _ _ => position_eq_error_iff
    simp [hgroups, bind_eq_error_iff, hpositions, pure, Except.pure]
  · next hnone => simp [hnone]

/-- A path has no steps where a numeral in brackets has too many digits, and only there. -/
theorem steps_eq_error_iff {path : String} :
    steps path = .error fault ↔
      fault = .numeralTooLong ∧ ∃ numeral ∈ numerals path, digitLimit < numeral.length := by
  unfold steps numerals
  dsimp only
  have hparts : ∀ parts : List (List Char), parts.mapM stepsOfPart = .error fault ↔
      fault = .numeralTooLong ∧
        ∃ part ∈ parts, ∃ numeral ∈ numeralsOfPart part, digitLimit < numeral.length :=
    fun parts => mapM_eq_error_iff_of_cause fun _ _ _ => stepsOfPart_eq_error_iff
  rw [bind_eq_error_iff, hparts]
  simp only [List.mem_flatMap, pure, Except.pure]
  grind

theorem positionOf_eq_error_iff {step : AccessStep} :
    positionOf step = .error fault ↔
      fault = .numeralTooLong ∧ ∃ name, step = .key name ∧ IsLongKey name := by
  cases step with
  | index n => simp [positionOf]
  | key name =>
    unfold positionOf positionOfKey
    dsimp only
    split
    · next hall => simp [map_eq_error_iff, position_eq_error_iff, IsLongKey, hall]
    · next hall => simp [IsLongKey, hall]

/-- A step cannot be taken where it asks a list for a key with too many digits, and only there. -/
theorem stepInto_eq_error_iff {value : Value} {step : AccessStep} :
    stepInto value step = .error fault ↔ fault = .numeralTooLong ∧
      ∃ items name, value = .array items ∧ step = .key name ∧ IsLongKey name := by
  unfold stepInto
  split
  · simp
  · next items step =>
    simp [bind_eq_error_iff, positionOf_eq_error_iff, pure, Except.pure]
  · next hnotList _ =>
    constructor
    · rintro ⟨⟩
    · rintro ⟨-, items, name, hvalue, -⟩
      exact (hnotList items hvalue).elim

/-- A walk ends without a result where a step on the way cannot be taken, and only there. -/
theorem walk_eq_error_iff {value : Value} {steps : List AccessStep} :
    walk value steps = .error fault ↔ fault = .numeralTooLong ∧ AsksLongKey value steps := by
  induction steps generalizing value with
  | nil => simp [walk, AsksLongKey]
  | cons step steps ih =>
    rw [walk, bind_eq_error_iff, stepInto_eq_error_iff]
    constructor
    · rintro (⟨hfault, items, name, rfl, rfl, hlong⟩ | ⟨next, hnext, hrest⟩)
      · exact ⟨hfault, [], name, steps, items, rfl, rfl, hlong⟩
      · cases next with
        | none => cases hrest
        | some next =>
          obtain ⟨hfault, front, name, back, items, rfl, hwalk, hlong⟩ := ih.mp hrest
          refine ⟨hfault, step :: front, name, back, items, rfl, ?_, hlong⟩
          rw [walk, hnext]
          exact hwalk
    · rintro ⟨hfault, front, name, back, items, hsteps, hwalk, hlong⟩
      cases front with
      | nil =>
        obtain ⟨rfl, rfl⟩ := List.cons.inj hsteps
        obtain rfl := Option.some.inj (Except.ok.inj hwalk)
        exact .inl ⟨hfault, items, name, rfl, rfl, hlong⟩
      | cons first front =>
        obtain ⟨rfl, rfl⟩ := List.cons.inj hsteps
        rw [walk] at hwalk
        obtain ⟨next, hnext, hrest⟩ := bind_eq_ok_iff.mp hwalk
        cases next with
        | none => cases hrest
        | some next =>
          exact .inr ⟨some next, hnext,
            ih.mpr ⟨hfault, front, name, back, items, rfl, hrest, hlong⟩⟩

/-- Only steps from a JSON value cannot be followed, where the value cannot be walked. -/
theorem walkDatum_eq_error_iff {datum : Datum} {steps : List AccessStep} :
    walkDatum datum steps = .error fault ↔
      fault = .numeralTooLong ∧ ∃ value, datum = .json value ∧ AsksLongKey value steps := by
  unfold walkDatum
  split
  · simp [AsksLongKey]
  · simp [bind_eq_error_iff, walk_eq_error_iff, pure, Except.pure]
  · next hnotJson _ =>
    constructor
    · rintro ⟨⟩
    · rintro ⟨-, value, hvalue, -⟩
      exact (hnotJson value hvalue).elim

/-- **Which paths cannot be followed**: those in which a numeral has too many digits. -/
theorem get_eq_error_iff {datum : Datum} {path : String} :
    get datum path = .error fault ↔ fault = .numeralTooLong ∧ IsOverlong datum path := by
  rw [get, bind_eq_error_iff, steps_eq_error_iff, IsOverlong]
  simp only [walkDatum_eq_error_iff]
  grind

theorem get_empty (datum : Datum) : get datum "" = .ok datum := by
  have hsteps : steps "" = .ok [] := by decide
  rw [get, hsteps]
  rfl

end AccessPath

end RequestScript
