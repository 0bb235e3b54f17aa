import RequestScript.AccessPath
import RequestScript.Exchange
import RequestScript.Proofs.Value.Readable

/-!
# Values that can be written

An integer with too many digits can neither be read nor written. So every value that has been read
from a text can be written again, and so can everything that is found inside it.
-/

namespace RequestScript

open Text

namespace Value

/-- The value of a JSON text can be written. -/
theorem isWritable_of_read {room : Nat} {s : String} {value : Value}
    (h : read room s = .ok (some value)) : value.isWritable = true :=
  (readable_of_read h).1.isWritable

end Value

/-! ## Finding -/

/-- The body of a response can be written. -/
theorem Outcome.isWritable_body {room : Nat} {timeout : Option Seconds} {reply : Reply}
    {outcome : Outcome} (h : ofReply room timeout reply = .ok outcome) :
    outcome.body.isWritable = true := by
  cases reply with
  | response status headers text cookieHeaders elapsed =>
    obtain ⟨read, hread, houtcome⟩ := bind_eq_ok_iff.mp h
    cases houtcome
    cases read with
    | none => rfl
    | some value => exact Value.isWritable_of_read hread
  | failure failure message => cases failure <;> cases h <;> rfl

namespace AccessPath

theorem isWritable_of_stepInto {value found : Value} {step : AccessStep}
    (hvalue : value.isWritable = true) (h : stepInto value step = .ok (some found)) :
    found.isWritable = true := by
  unfold stepInto at h
  split at h
  · next fields name =>
    have hfields : ∀ field ∈ fields, field.2.isWritable = true :=
      Value.areFieldsWritable_iff.mp hvalue
    exact hfields _ (Table.mem_of_get? (Except.ok.inj h))
  · next items =>
    have hitems : ∀ item ∈ items, item.isWritable = true := Value.areWritable_iff.mp hvalue
    obtain ⟨position, _, hposition⟩ := bind_eq_ok_iff.mp h
    obtain ⟨n, _, hitem⟩ := Option.bind_eq_some_iff.mp (Except.ok.inj hposition)
    exact hitems _ (List.mem_of_getElem? hitem)
  · cases h

/-- What is found inside a value that can be written can be written. -/
theorem isWritable_of_walk {value found : Value} {steps : List AccessStep}
    (hvalue : value.isWritable = true) (h : walk value steps = .ok (some found)) :
    found.isWritable = true := by
  induction steps generalizing value with
  | nil =>
    cases h
    exact hvalue
  | cons step steps ih =>
    rw [walk] at h
    obtain ⟨next, hnext, hrest⟩ := bind_eq_ok_iff.mp h
    cases next with
    | none => cases hrest
    | some next => exact ih (isWritable_of_stepInto hvalue hnext) hrest

end AccessPath

end RequestScript
