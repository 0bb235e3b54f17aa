import RequestScript.Assertion.Check
import RequestScript.Proofs.World.Follows

/-!
# Assertions on durations

How long a request took decides whether assertions on the duration hold, and a duration that is
out of range for them is a fault. Otherwise it makes no difference to the checks of assertions.
-/

namespace RequestScript

open RequestScript.Action

namespace Assertion

variable {measured : Prop}

theorem parallel_doubleOfInt (hmeasured : measured) (duration other : Int) :
    Parallel measured (Value.doubleOfInt duration) (Value.doubleOfInt other) := by
  unfold Value.doubleOfInt
  cases Double.ofInt? duration with
  | none => exact .first hmeasured rfl
  | some x =>
    cases Double.ofInt? other with
    | none => exact .second hmeasured rfl
    | some y => exact .ok x y

/-- Whether an assertion holds for two data whose numbers are alike. -/
theorem parallel_holds (hmeasured : measured) (operator : Operator) (expected : Option String)
    {a b : Datum} (hnumber : Parallel measured a.number b.number)
    (hisNumber : Parallel measured a.isNumber b.isNumber) :
    Parallel measured (holds operator a expected) (holds operator b expected) := by
  have hordered : ∀ relation text,
      Parallel measured (orderedAs relation a text) (orderedAs relation b text) := by
    intro relation text
    exact hnumber.bind fun x y => (Parallel.refl _).bind fun x' y' => .ok _ _
  unfold holds
  cases a.hasText with
  | false => exact .first hmeasured rfl
  | true =>
    cases b.hasText with
    | false => exact .second hmeasured rfl
    | true =>
      cases operator with
      | greater | less | atLeast | atMost => exact hordered _ _
      | isNumber => exact hisNumber
      | _ => exact .ok _ _

/-- A check differs between two durations only in its verdict or in a number that is out of range,
and only if it is a check of the duration. -/
theorem parallel_check (duration other : Int) (findings : Findings) {assertion : Assertion}
    (hmeasured : assertion.target = .duration → measured) :
    Parallel measured (check { findings with duration := .json (.int duration) } assertion)
      (check { findings with duration := .json (.int other) } assertion) := by
  have hnumber : assertion.target = .duration → Parallel measured
      (Datum.json (.int duration)).number (Datum.json (.int other)).number :=
    fun htarget => parallel_doubleOfInt (hmeasured htarget) duration other
  have hisNumber : Parallel measured
      (Datum.json (.int duration)).isNumber (Datum.json (.int other)).isNumber := .ok true true
  generalize Datum.json (.int duration) = a at hnumber hisNumber ⊢
  generalize Datum.json (.int other) = b at hnumber hisNumber ⊢
  by_cases htarget : assertion.target = .duration
  · unfold check actual
    rw [htarget]
    have hholds := parallel_holds (hmeasured htarget) assertion.operator assertion.expected
      (hnumber htarget) hisNumber
    exact hholds.bind fun x y => .ok _ _
  · have hactual : actual assertion { findings with duration := a } =
        actual assertion { findings with duration := b } := by
      unfold actual
      split <;> first | rfl | exact absurd ‹_› htarget
    unfold check
    rw [hactual]
    exact .refl _

/-- Checks differ between two durations only in their verdicts or in a number that is out of
range, and only if one of them is a check of the duration. -/
theorem parallel_checkAll (duration other : Int) (findings : Findings)
    {assertions : List Assertion}
    (hmeasured : (∃ assertion ∈ assertions, assertion.target = .duration) → measured) :
    Parallel measured (checkAll { findings with duration := .json (.int duration) } assertions)
      (checkAll { findings with duration := .json (.int other) } assertions) :=
  .mapM fun assertion hmem =>
    parallel_check duration other findings fun htarget => hmeasured ⟨assertion, hmem, htarget⟩

end Assertion

end RequestScript
