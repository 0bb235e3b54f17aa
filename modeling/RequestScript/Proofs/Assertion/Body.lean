import RequestScript.Proofs.AccessPath
import RequestScript.Proofs.Assertion.Label
import RequestScript.Proofs.Run.Captures
import RequestScript.Proofs.Value.Writable

/-!
# Places in a body

A capture and an assertion each find a place in the body of a response in a way of their own. Both
find the same there, so that an assertion that expects the text of what is captured passes.
-/

namespace RequestScript

open Text

/-- A path without blanks is trimmed behind `body.` as well. -/
theorem trim_bodyWord {path : String} (hpath : ∀ c ∈ path.toList, isBlank c = false) :
    trim ("body.".toList ++ path.toList) = "body.".toList ++ path.toList := by
  rw [trim_append_left (by decide) (by decide), (trim_eq_self_iff.mp (trim_of_forall hpath)).2]

namespace AccessPath

variable {path : String} {steps : List AccessStep}

/-- Steps whose positions can be read lead somewhere or nowhere. -/
theorem exists_walk (hpositions : ∀ step ∈ steps, ∃ position, positionOf step = .ok position)
    (value : Value) : ∃ found, walk value steps = .ok found := by
  induction steps generalizing value with
  | nil => exact ⟨value, rfl⟩
  | cons step steps ih =>
    -- Only a step into a list asks for a position.
    have hstep : ∃ next, stepInto value step = .ok next := by
      obtain ⟨position, hposition⟩ := hpositions step List.mem_cons_self
      unfold stepInto
      split
      · exact ⟨_, rfl⟩
      · rw [hposition]
        exact ⟨_, rfl⟩
      · exact ⟨_, rfl⟩
    obtain ⟨next, hnext⟩ := hstep
    rw [walk, hnext]
    cases next with
    | none => exact ⟨none, rfl⟩
    | some next => exact ih (fun step hmem => hpositions step (List.mem_cons_of_mem _ hmem)) next

/-- A path with steps is a text. -/
theorem ne_empty_of_steps (hsteps : AccessPath.steps path = .ok steps) (hne : steps ≠ []) :
    path ≠ "" := by
  rintro rfl
  exact hne (Except.ok.inj hsteps.symm)

/-- The word `body.` before a path is left out. -/
theorem extract_body (hpath : ∀ c ∈ path.toList, isBlank c = false) (datum : Datum) :
    extract datum ("body." ++ path) = get datum path := by
  have hlonger : "body.".toList ++ path.toList ≠ "body".toList := by
    simp
  have hdrop : dropStart? "body.".toList ("body.".toList ++ path.toList) = some path.toList := by
    simp [dropStart?]
  simp only [extract, String.toList_append, trim_bodyWord hpath, hlonger, if_false, hdrop,
    String.ofList_toList]

end AccessPath

namespace Capture

/-- A query that begins with `body.` is no literal, and finds a place in the body. -/
theorem find_body {path : String} {steps : List AccessStep}
    (hpath : ∀ c ∈ path.toList, isBlank c = false) (hsteps : AccessPath.steps path = .ok steps)
    (hne : steps ≠ []) (status : Int) (headers : Headers) (value : Value) :
    find ("body." ++ path) status headers (.json value) = AccessPath.get (.json value) path := by
  have hquoted : quotedLiteral? ("body.".toList ++ path.toList) = none := by
    have hquote : isQuote 'b' = false := by decide
    have hstart : "body.".toList ++ path.toList = 'b' :: ("ody.".toList ++ path.toList) := rfl
    rw [hstart, quotedLiteral?]
    split
    · simp [hquote]
    · rfl
  have hplain : isPlainLiteral ("body.".toList ++ path.toList) = false := by
    have hdot : '.' ∉ "body".toList := by decide
    have hcut : cut? '.' ("body.".toList ++ path.toList) = some ("body".toList, path.toList) :=
      cut?_append hdot path.toList
    have hnumeral : isNumeral ("body.".toList ++ path.toList) = false := by
      rw [isNumeral, hcut]
      rfl
    rw [isPlainLiteral, hnumeral]
    simp
  have hheader : dropStart? "header.".toList ("body.".toList ++ path.toList) = none := by
    simp [dropStart?]
  have hstatus : "body.".toList ++ path.toList ≠ "status".toList := by
    simp
  simp only [find, String.toList_append, trim_bodyWord hpath, hquoted, hplain,
    Bool.false_eq_true, if_false, hstatus, hheader, String.ofList_append, String.ofList_toList]
  split
  · next hnull =>
    -- A capture finds nothing in `null` at once, and a walk does so at its first step.
    obtain ⟨step, rest, rfl⟩ := List.exists_cons_of_ne_nil hne
    obtain rfl := Datum.json.inj hnull
    rw [AccessPath.get_json hsteps]
    rfl
  · exact AccessPath.extract_body hpath _

end Capture

namespace Assertion

variable {path text : String}

/-- The assertion that a place in the body has a text. -/
def bodyEquals (path text : String) : Assertion where
  target := .body
  operator := .equal
  path := some path
  expected := some text

theorem label_bodyEquals (hname : path ≠ "") :
    (bodyEquals path text).label = "body." ++ path ++ " == " ++ text := by
  rw [← String.toList_inj]
  simp [label, bodyEquals, hname, Target.word, Operator.word]

theorem wellFormed_bodyEquals (hname : path ≠ "") (hpath : ∀ c ∈ path.toList, isBlank c = false)
    (hstripped : Stripped text) (hline : '\n' ∉ text.toList) :
    (bodyEquals path text).WellFormed where
  target := rfl
  path := fun _ hmem => Option.some.inj hmem ▸ ⟨hname, hpath⟩
  operator := .inr rfl
  isSome_expected := rfl
  expected := fun _ hmem => Option.some.inj hmem ▸ ⟨hstripped, hline⟩

/-- A datum equals its own text. -/
theorem holds_equal_text {datum : Datum} (htext : datum.hasText = true) :
    holds .equal datum (some datum.text) = .ok true := by
  simp [holds, htext]

end Assertion

namespace Outcome

variable {room : Nat} {timeout : Option Seconds} {reply : Reply} {outcome : Outcome}
  {path : String} {steps : List AccessStep}

/-- What a capture of a place in the body finds. -/
def captured (outcome : Outcome) (path : String) : Except Fault Datum :=
  Capture.find ("body." ++ path) outcome.status outcome.headers (.json outcome.body)

/-- What an assertion about a place in the body compares is what a capture of the place finds. -/
theorem actual_eq_captured (outcome : Outcome) (hpath : ∀ c ∈ path.toList, isBlank c = false)
    (hsteps : AccessPath.steps path = .ok steps) (hne : steps ≠ []) (operator : Operator)
    (expected : Option String) (duration : Int) :
    Assertion.actual ⟨.body, operator, some path, expected⟩ (outcome.findings duration) =
      outcome.captured path := by
  have hname := AccessPath.ne_empty_of_steps hsteps hne
  have hnamed : (some path).filter (!·.isEmpty) = some path := by simp [hname]
  rw [captured, Capture.find_body hpath hsteps hne]
  simp only [Assertion.actual, hnamed]
  rfl

/-- What is captured of a body that was read has a text. -/
theorem hasText_captured (hreply : ofReply room timeout reply = .ok outcome)
    (hpath : ∀ c ∈ path.toList, isBlank c = false) (hsteps : AccessPath.steps path = .ok steps)
    (hne : steps ≠ []) {found : Datum} (hfound : outcome.captured path = .ok found) :
    found.hasText = true := by
  rw [captured, Capture.find_body hpath hsteps hne, AccessPath.get_json hsteps] at hfound
  obtain ⟨value, hwalk, rfl⟩ := map_eq_ok_iff.mp hfound
  cases value with
  | none => rfl
  | some value => exact AccessPath.isWritable_of_walk (isWritable_body hreply) hwalk

/-- **Captures and assertions read the same.** At a path with steps, a capture finds in the body of
any reply what an assertion about the body compares, and finds it without a fault where every
position in the path can be read. Where the text of what is found can be written behind an operator,
the equality of the place with it is an assertion, which passes. -/
theorem body_reads_alike (hreply : ofReply room timeout reply = .ok outcome)
    (hpath : ∀ c ∈ path.toList, isBlank c = false) (hsteps : AccessPath.steps path = .ok steps)
    (hne : steps ≠ []) :
    (∀ operator expected duration,
      Assertion.actual ⟨.body, operator, some path, expected⟩ (outcome.findings duration) =
        outcome.captured path) ∧
    ((∀ step ∈ steps, ∃ position, AccessPath.positionOf step = .ok position) →
      ∃ found, outcome.captured path = .ok found) ∧
    ∀ found, outcome.captured path = .ok found → Stripped found.text → '\n' ∉ found.text.toList →
      ∃ assertion, Assertion.parse? ("body." ++ path ++ " == " ++ found.text) = some assertion ∧
        ∀ duration, Assertion.check (outcome.findings duration) assertion =
          .ok ⟨"body." ++ path ++ " == " ++ found.text, true⟩ := by
  have hactual := actual_eq_captured outcome hpath hsteps hne
  have hname := AccessPath.ne_empty_of_steps hsteps hne
  refine ⟨hactual, fun hpositions => ?_, fun found hfound hstripped hline => ?_⟩
  · obtain ⟨found, hwalk⟩ := AccessPath.exists_walk hpositions outcome.body
    refine ⟨.ofOption found, ?_⟩
    rw [captured, Capture.find_body hpath hsteps hne, AccessPath.get_json hsteps, hwalk]
    rfl
  · have hwell := Assertion.wellFormed_bodyEquals hname hpath hstripped hline
    have hholds := Assertion.holds_equal_text (hasText_captured hreply hpath hsteps hne hfound)
    rw [← Assertion.label_bodyEquals hname]
    refine ⟨.bodyEquals path found.text, hwell.ofChars?_label, fun duration => ?_⟩
    have hread : Assertion.actual (.bodyEquals path found.text) (outcome.findings duration) =
        .ok found := (hactual _ _ _).trans hfound
    rw [Assertion.check, hread]
    exact congrArg (Except.map (Assertion.Verdict.mk _)) hholds

/-- The number at a place in a body, which an assertion finds there as well. -/
theorem body_reads_alike_id :
    let reply : Reply := .response 200 [] "\x7b\"items\": [\x7b\"id\": 7\x7d]\x7d" none 0
    ∃ outcome assertion, ofReply 900 none reply = .ok outcome ∧
      Assertion.parse? "body.items[0].id == 7" = some assertion ∧
      ∀ duration, Assertion.check (outcome.findings duration) assertion =
        .ok ⟨"body.items[0].id == 7", true⟩ := by
  intro reply
  have htext : (ofReply 900 none reply).bind
      (fun outcome => (outcome.captured "items[0].id").map Datum.text) = .ok "7" := by
    decide +kernel
  obtain ⟨outcome, hreply, hcaptured⟩ := bind_eq_ok_iff.mp htext
  obtain ⟨found, hfound, hseven⟩ := map_eq_ok_iff.mp hcaptured
  have hsteps : AccessPath.steps "items[0].id" = .ok [.key "items", .index 0, .key "id"] := by
    decide +kernel
  have hpath : "items[0].id".toList.all (!isBlank ·) = true := by decide
  have hstripped : Stripped found.text := by
    rw [hseven]
    exact ⟨by decide, by decide⟩
  obtain ⟨-, -, hequal⟩ := body_reads_alike hreply (by simpa using hpath) hsteps (by simp)
  obtain ⟨assertion, hparse, hcheck⟩ := hequal found hfound hstripped (by simp [hseven])
  rw [hseven] at hparse hcheck
  exact ⟨outcome, assertion, hreply, hparse, hcheck⟩

end Outcome

end RequestScript
