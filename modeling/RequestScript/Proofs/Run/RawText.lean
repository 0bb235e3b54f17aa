import RequestScript.Proofs.Value.RoundTrip
import RequestScript.Run.Report

/-!
# The body alone

A report that is shown as the body alone is the JSON text of the body where that is a list, an
object or a finite number. Truth values, infinities and `nan` are shown as words that no JSON text
has.
-/

namespace RequestScript

namespace Value

/-- Whether a value is shown as a word that is no JSON text: truth values are capitalised, and there
are no numerals for infinities and `nan`. -/
def isShownAsWord : Value → Bool
  | .bool _ | .double .nan | .double (.infinite _) => true
  | _ => false

/-- What can be read where there is some room can be read where there is more. -/
theorem IsReadableWithin.mono {room more : Nat} {value : Value} (h : value.IsReadableWithin room)
    (hroom : room ≤ more) : value.IsReadableWithin more :=
  ⟨h.1, h.2.trans hroom⟩

theorem read_of_write (style : Style) {room : Nat} {value : Value}
    (h : value.IsReadableWithin room) {text : String} (htext : text.toList = value.write style 0) :
    read room text = .ok (some value) := by
  rw [read, htext, ofJson_write style 0 h]

end Value

namespace Report

variable {report : Report} {value : Value}

/-- A word for a truth value or a number without a numeral is no JSON text. -/
theorem read_bodyText?_of_word (h : value.isShownAsWord = true) (room : Nat) :
    ∃ text, bodyText? (.json value) = some text ∧ Value.read room text = .ok none := by
  cases value with
  | bool b => cases b <;> exact ⟨_, rfl, rfl⟩
  | double x =>
    cases x with
    | nan => exact ⟨_, rfl, rfl⟩
    | infinite negative => cases negative <;> exact ⟨_, rfl, rfl⟩
    | finite => cases h
  | _ => cases h

/-- Every other body that is neither `null` nor a string is shown as its JSON text. -/
theorem read_bodyText? (hnull : value ≠ .null) (hstring : ∀ s, value ≠ .string s)
    (hword : value.isShownAsWord = false) {room : Nat} (h : value.IsReadableWithin room) :
    ∃ text, bodyText? (.json value) = some text ∧ Value.read room text = .ok (some value) := by
  cases value with
  | null => exact absurd rfl hnull
  | bool => cases hword
  | string s => exact absurd rfl (hstring s)
  | int n => exact ⟨_, rfl, Value.read_of_write .compact h String.toList_ofList⟩
  | double x =>
    cases x with
    | nan | infinite => cases hword
    | finite => exact ⟨_, rfl, Value.read_of_write .compact h rfl⟩
  | array | object => exact ⟨_, rfl, Value.read_of_write .pretty h String.toList_ofList⟩

/-- **The body alone is a JSON text of the body of the response**, which is neither `null` nor a
string, exactly where it is not shown as a word. Whatever else a report tells makes no difference,
and the text can be read wherever there is as much room as where the response was read. -/
theorem read_text_raw {response : String} {room more : Nat}
    (hresponse : Value.read room response = .ok (some value)) (hroom : room ≤ more)
    (hnull : value ≠ .null) (hstring : ∀ s, value ≠ .string s) (hbody : report.body = .json value)
    (verbose : Bool) :
    ∃ text, report.text verbose true = .ok text ∧
      Value.read more text = .ok (if value.isShownAsWord then none else some value) := by
  have hreadable := Value.readable_of_read hresponse
  obtain ⟨text, htext, hread⟩ : ∃ text, bodyText? (.json value) = some text ∧
      Value.read more text = .ok (if value.isShownAsWord then none else some value) := by
    cases hword : value.isShownAsWord with
    | true => exact read_bodyText?_of_word hword more
    | false => exact read_bodyText? hnull hstring hword (hreadable.mono hroom)
  refine ⟨text, ?_, hread⟩
  rw [Report.text, if_pos rfl, rawText, hbody, htext, Option.getD_some]

/-- Inside a list truth values are spelt as in JSON texts. -/
theorem read_text_raw_nested :
    ∃ text, Report.text { method := "GET", url := "http://h/", error := some "late"
                          verdicts := [⟨"status == 200", false⟩]
                          body := .json (.array [.bool true, .object [("a", .null)]]) }
        false true = .ok text ∧
      Value.read Depth.limit text = .ok (some (.array [.bool true, .object [("a", .null)]])) := by
  have htrue : (Value.bool true).Every Value.IsReadableHere :=
    .intro trivial (List.forall_mem_nil _)
  have hnull : Value.null.Every Value.IsReadableHere := .intro trivial (List.forall_mem_nil _)
  have hreadable : (Value.array [.bool true, .object [("a", .null)]]).IsReadableWithin 2 := by
    refine ⟨?_, by decide +kernel⟩
    simp [Value.IsReadable, Value.every_array_iff, Value.every_object_iff, Value.IsReadableHere,
      Table.names, htrue, hnull]
  have hresponse := Value.read_of_write .compact hreadable String.toList_ofList
  exact read_text_raw hresponse (by decide) (by simp) (by simp) rfl false

/-- A truth value is shown with a capital, which no JSON text has. -/
theorem rawText_of_true :
    ¬∀ (report : Report) (value : Value) (room : Nat) (response : String),
      Value.read room response = .ok (some value) → value ≠ .null → (∀ s, value ≠ .string s) →
      report.body = .json value →
        ∃ text, report.text false true = .ok text ∧ Value.read room text = .ok (some value) := by
  intro hpiped
  obtain ⟨text, htext, hread⟩ := hpiped
    { method := "GET", url := "http://h/", body := .json (.bool true) } (.bool true) 0 "true" rfl
    nofun nofun rfl
  obtain rfl : "True" = text := Except.ok.inj htext
  cases hread

end Report

end RequestScript
