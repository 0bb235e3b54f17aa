import RequestScript.Proofs.Run.Attempts
import RequestScript.Proofs.Value.Faults

/-!
# Assertions that cannot be checked

An assertion that does not hold is a verdict. Four things keep an assertion from having one: a path
that cannot be followed, an integer with too many digits to be written in what is compared, and, on
either side of a comparison of numbers, an integer that is too large to be a double. The first such
assertion leaves a response without verdicts.
-/

namespace RequestScript

open Text

/-- Whether an operator compares numbers. -/
def Operator.isOrder : Operator → Bool
  | .greater | .less | .atLeast | .atMost => true
  | _ => false

/-- A datum stands for an integer that is too large to be a double. -/
def Datum.IsHuge : Datum → Prop
  | .json value => value.IsHuge
  | _ => False

namespace Datum

variable {datum : Datum} {fault : Fault}

theorem number_eq_error_iff :
    datum.number = .error fault ↔ fault = .numberTooLarge ∧ datum.IsHuge := by
  cases datum with
  | json value => exact Value.number_eq_error_iff
  | _ => simp [number, IsHuge]

theorem isNumber_eq_error_iff :
    datum.isNumber = .error fault ↔
      fault = .numberTooLarge ∧ ∃ s, datum = .ofString s ∧ Value.IsHugeText s := by
  cases datum with
  | json value => simp [isNumber, ofString, Value.isNumber_eq_error_iff]
  | _ => simp [isNumber, ofString]

end Datum

namespace Assertion

/-- An assertion has no verdict on what was found, because a number or a text in it goes beyond what
can be read, written or compared. -/
inductive Exceeds (findings : Findings) (assertion : Assertion) : Fault → Prop where
  /-- The path into the body cannot be followed. -/
  | path (hbody : assertion.target = .body)
      (hlong : AccessPath.IsOverlong findings.body (assertion.path.getD "")) :
      Exceeds findings assertion .numeralTooLong
  /-- What is found has an integer with too many digits to be written. -/
  | text {found : Datum} (hfound : assertion.actual findings = .ok found)
      (htext : found.hasText = false) : Exceeds findings assertion .numeralTooLong
  /-- A number that is found is too large to be compared. -/
  | actual {found : Datum} (hfound : assertion.actual findings = .ok found)
      (htext : found.hasText = true) (horder : assertion.operator.isOrder = true)
      (hhuge : found.IsHuge) : Exceeds findings assertion .numberTooLarge
  /-- A number that is expected is too large to be compared. -/
  | expected {found : Datum} (hfound : assertion.actual findings = .ok found)
      (htext : found.hasText = true) (horder : assertion.operator.isOrder = true)
      (hhuge : Value.IsHugeText (assertion.expected.getD "")) :
      Exceeds findings assertion .numberTooLarge
  /-- A text that may be a number denotes one that is too large. -/
  | isNumber {s : String} (hfound : assertion.actual findings = .ok (.ofString s))
      (hoperator : assertion.operator = .isNumber) (hhuge : Value.IsHugeText s) :
      Exceeds findings assertion .numberTooLarge

variable {findings : Findings} {assertion : Assertion} {fault : Fault}

/-- What an assertion speaks of is found, unless it is in a body where the path cannot be
followed. -/
theorem actual_eq_error_iff :
    assertion.actual findings = .error fault ↔ fault = .numeralTooLong ∧
      assertion.target = .body ∧ AccessPath.IsOverlong findings.body (assertion.path.getD "") := by
  by_cases hbody : assertion.target = .body
  · have hget : assertion.actual findings =
        AccessPath.get findings.body (assertion.path.getD "") := by
      unfold actual
      rw [hbody]
      cases assertion.path with
      | none => exact (AccessPath.get_empty _).symm
      | some path =>
        by_cases hempty : path = ""
        · subst hempty
          exact (AccessPath.get_empty _).symm
        · have hnamed : (some path).filter (!·.isEmpty) = some path := by simp [hempty]
          simp only [hnamed, Option.getD_some]
    rw [hget, AccessPath.get_eq_error_iff]
    simp [hbody]
  · have hfound : ∃ found, assertion.actual findings = .ok found := by
      unfold actual
      dsimp only
      split
      case h_2 htarget => exact absurd htarget hbody
      all_goals repeat' split
      all_goals exact ⟨_, rfl⟩
    obtain ⟨found, hfound⟩ := hfound
    simp [hfound, hbody]

theorem orderedAs_eq_error_iff {relation : Double → Double → Bool} {found : Datum}
    {expected : String} :
    orderedAs relation found expected = .error fault ↔
      fault = .numberTooLarge ∧ (found.IsHuge ∨ Value.IsHugeText expected) := by
  have hnumber := @Datum.number_eq_error_iff found
  unfold orderedAs
  simp only [bind_eq_error_iff, Value.numberOfText_eq_error_iff, hnumber, pure, Except.pure]
  cases hfound : found.number with
  | error cause => grind
  | ok x => grind

/-- Whether a datum is as an operator and a text say cannot be told where the datum has no text, or
where a number that is asked for is too large. -/
theorem holds_eq_error_iff {operator : Operator} {found : Datum} {expected : Option String} :
    holds operator found expected = .error fault ↔
      fault = .numeralTooLong ∧ found.hasText = false ∨
      fault = .numberTooLarge ∧ found.hasText = true ∧
        (operator.isOrder = true ∧ (found.IsHuge ∨ Value.IsHugeText (expected.getD "")) ∨
          operator = .isNumber ∧ ∃ s, found = .ofString s ∧ Value.IsHugeText s) := by
  unfold holds
  cases found.hasText with
  | false =>
    simp only [Bool.not_false, if_true, Except.error.injEq, Bool.false_eq_true, false_and,
      and_false, or_false, and_true]
    exact eq_comm
  | true =>
    cases operator with
    | greater | less | atLeast | atMost => simp [orderedAs_eq_error_iff, Operator.isOrder]
    | isNumber => simp [Datum.isNumber_eq_error_iff, Operator.isOrder]
    | _ => simp [Operator.isOrder]

/-- An assertion is left without a verdict where it goes beyond what can be read, written or
compared, and only there. -/
theorem check_eq_error_iff :
    check findings assertion = .error fault ↔ assertion.Exceeds findings fault := by
  unfold check
  simp only [bind_eq_error_iff, actual_eq_error_iff, holds_eq_error_iff, pure, Except.pure]
  constructor
  · rintro (⟨rfl, hbody, hlong⟩ | ⟨found, hfound, hholds | ⟨_, _, ⟨⟩⟩⟩)
    · exact .path hbody hlong
    · rcases hholds with ⟨rfl, htext⟩ | ⟨rfl, htext, ⟨horder, hhuge | hhuge⟩ |
        ⟨hoperator, s, rfl, hhuge⟩⟩
      · exact .text hfound htext
      · exact .actual hfound htext horder hhuge
      · exact .expected hfound htext horder hhuge
      · exact .isNumber hfound hoperator hhuge
  · rintro (⟨hbody, hlong⟩ | ⟨hfound, htext⟩ | ⟨hfound, htext, horder, hhuge⟩ |
      ⟨hfound, htext, horder, hhuge⟩ | ⟨hfound, hoperator, hhuge⟩)
    · exact .inl ⟨rfl, hbody, hlong⟩
    · exact .inr ⟨_, hfound, .inl (.inl ⟨rfl, htext⟩)⟩
    · exact .inr ⟨_, hfound, .inl (.inr ⟨rfl, htext, .inl ⟨horder, .inl hhuge⟩⟩)⟩
    · exact .inr ⟨_, hfound, .inl (.inr ⟨rfl, htext, .inl ⟨horder, .inr hhuge⟩⟩)⟩
    · exact .inr ⟨_, hfound, .inl (.inr ⟨rfl, rfl, .inr ⟨hoperator, _, rfl, hhuge⟩⟩)⟩

/-- An assertion that does not go beyond anything has a verdict, whether it holds or not. -/
theorem exists_check_iff :
    (∃ verdict, check findings assertion = .ok verdict) ↔
      ∀ fault, ¬assertion.Exceeds findings fault := by
  simp only [← check_eq_error_iff]
  cases check findings assertion <;> simp

theorem label_of_check {verdict : Verdict} (h : check findings assertion = .ok verdict) :
    verdict.label = assertion.label := by
  obtain ⟨found, -, hholds⟩ := bind_eq_ok_iff.mp h
  obtain ⟨passed, -, hverdict⟩ := bind_eq_ok_iff.mp hholds
  cases hverdict
  rfl

/-- **When assertions have verdicts.** There is one verdict for each assertion, in their order and
with their labels, if and only if no assertion goes beyond what can be read, written or compared.
Otherwise the first assertion that does is what the response is left without verdicts for. -/
theorem checkAll_iff (findings : Findings) (assertions : List Assertion) :
    ((∃ verdicts, checkAll findings assertions = .ok verdicts ∧
        verdicts.map (·.label) = assertions.map label) ↔
      ∀ assertion ∈ assertions, ∀ fault, ¬assertion.Exceeds findings fault) ∧
    ∀ fault, checkAll findings assertions = .error fault ↔
      ∃ before assertion after, assertions = before ++ assertion :: after ∧
        (∀ earlier ∈ before, ∀ fault, ¬earlier.Exceeds findings fault) ∧
        assertion.Exceeds findings fault := by
  simp only [← exists_check_iff]
  simp only [← check_eq_error_iff]
  refine ⟨?_, fun fault => mapM_eq_error_iff⟩
  rw [← exists_mapM_eq_ok_iff]
  constructor
  · rintro ⟨verdicts, hverdicts, -⟩
    exact ⟨verdicts, hverdicts⟩
  · rintro ⟨verdicts, hverdicts⟩
    exact ⟨verdicts, hverdicts, map_eq_map_of_mapM hverdicts fun _ _ => label_of_check⟩

set_option maxRecDepth 10000 in
/-- A response can be read whose number is then too large to be compared with another. -/
theorem checkAll_hugeNumber :
    let body := "\x7b\"n\": 1" ++ String.ofList (List.replicate 400 '0') ++ "\x7d"
    ∃ outcome assertion, Outcome.ofReply 900 none (.response 200 [] body none 0) = .ok outcome ∧
      parse? "body.n > 5" = some assertion ∧
      checkAll (outcome.findings 0) [assertion] = .error .numberTooLarge := by
  intro body
  have hassertion : parse? "body.n > 5" = some ⟨.body, .greater, some "n", some "5"⟩ := by
    decide +kernel
  have hstart : "\x7b\"n\": 1".toList = ['\x7b', '\x22', 'n', '\x22', ':', ' ', '1'] := by
    decide +kernel
  have hend : "\x7d".toList = ['\x7d'] := by decide +kernel
  have hbody : body.toList = ['\x7b', '\x22', 'n', '\x22', ':', ' ', '1'] ++
      List.replicate 400 '0' ++ ['\x7d'] := by
    simp only [body, String.toList_append, String.toList_ofList, hstart, hend]
  have hvalue : Value.ofJson 900 body.toList =
      .ok (.object [("n", .int (Text.natOfDigits ('1' :: List.replicate 400 '0')))]) := by
    rw [hbody]
    rfl
  have hdigits : Text.natOfDigits ('1' :: List.replicate 400 '0') = 10 ^ 400 := by decide +kernel
  have hread : Value.read 900 body = .ok (some (.object [("n", .int (10 ^ 400 : Nat))])) := by
    rw [Value.read, hvalue, hdigits]
  have houtcome : Outcome.ofReply 900 none (.response 200 [] body none 0) =
      .ok { status := 200, body := .object [("n", .int (10 ^ 400 : Nat))], text := body } := by
    unfold Outcome.ofReply Outcome.ofResponse
    simp only [hread]
    rfl
  exact ⟨_, _, houtcome, hassertion, by decide +kernel⟩

end Assertion

end RequestScript
