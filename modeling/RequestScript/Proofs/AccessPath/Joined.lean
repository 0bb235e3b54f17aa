import RequestScript.Proofs.AccessPath
import RequestScript.Proofs.Value.Faults

/-!
# Joined paths

Two paths with a dot between them are one path. Its steps are those of the first path and behind
them those of the second one, and it leads to where the second path leads from where the first one
leads. It cannot be followed exactly where one of the two cannot be.
-/

namespace RequestScript.AccessPath

open Text

/-! ## Walking in two parts -/

/-- Nothing is behind nothing. -/
theorem walkDatum_absent (steps : List AccessStep) : walkDatum .absent steps = .ok .absent := by
  cases steps <;> rfl

/-- The first steps lead to a datum, and the other ones on from there. -/
theorem walkDatum_append (datum : Datum) (front back : List AccessStep) :
    walkDatum datum (front ++ back) = (do walkDatum (← walkDatum datum front) back) := by
  cases datum with
  | json value =>
    rw [walkDatum_json, walkDatum_json, walk_append]
    cases walk value front with
    | error fault => rfl
    | ok found =>
      cases found with
      | none => exact (walkDatum_absent back).symm
      | some next => exact (walkDatum_json next back).symm
  | absent =>
    rw [walkDatum_absent, walkDatum_absent]
    exact (walkDatum_absent back).symm
  | binary data =>
    cases front with
    | nil => rfl
    | cons step front => exact (walkDatum_absent back).symm

/-! ## Two paths -/

variable {front back : String}

/-- The steps of a joined path are those of the first path and behind them those of the second. -/
theorem steps_append (hfront : trimmed front = front) (hback : trimmed back = back) :
    steps (front ++ "." ++ back) = (do return (← steps front) ++ (← steps back)) := by
  rw [trimmed_eq_self_iff] at hfront hback
  have hjoined : (front ++ "." ++ back).toList = front.toList ++ '.' :: back.toList := by simp
  rw [steps_eq, steps_eq, steps_eq, hjoined, trim_append_cons (by decide) hfront hback, hfront,
    hback, stepsOfParts_append]

theorem get_absent (path : String) : get .absent path = (steps path).map fun _ => .absent := by
  rw [get]
  cases steps path with
  | error fault => rfl
  | ok steps => exact walkDatum_absent steps

/-- A joined path leads to where the second path leads from where the first one leads. -/
theorem get_append (datum : Datum) (hfront : trimmed front = front) (hback : trimmed back = back) :
    get datum (front ++ "." ++ back) = (do get (← get datum front) back) := by
  -- The joined path is read as a whole before it is walked. The second path alone is read after the
  -- first one is walked, which makes no difference, as reading and walking fail for the same cause.
  have hlater (before : List AccessStep) :
      (do let behind ← steps back; let found ← walkDatum datum before; walkDatum found behind) =
        (do let found ← walkDatum datum before; get found back) :=
    bind_comm_of_error_eq (fun _ _ hread hwalk =>
      (steps_eq_error_iff.mp hread).1.trans (walkDatum_eq_error_iff.mp hwalk).1.symm) _
  rw [get, get, steps_append hfront hback]
  cases steps front with
  | error fault => rfl
  | ok before =>
    refine Eq.trans ?_ (hlater before)
    cases steps back with
    | error fault => rfl
    | ok behind => exact walkDatum_append datum before behind

/-- A numeral with too many digits is in a joined path where one is in the first path, or in the
second one from where the first one leads. -/
theorem isOverlong_append_iff (datum : Datum) (hfront : trimmed front = front)
    (hback : trimmed back = back) :
    IsOverlong datum (front ++ "." ++ back) ↔
      IsOverlong datum front ∨ ∃ found, get datum front = .ok found ∧ IsOverlong found back := by
  have hfault (datum : Datum) (path : String) :
      IsOverlong datum path ↔ get datum path = .error .numeralTooLong := by
    simp [get_eq_error_iff]
  simp only [hfault, get_append datum hfront hback, bind_eq_error_iff]

/-- A list cannot be asked for a key of too many digits. -/
theorem isOverlong_digits {digits : List Char} (items : List Value)
    (hdigits : ∀ c ∈ digits, c.isDigit = true) (hlong : digitLimit < digits.length) :
    IsOverlong (.json (.array items)) (String.ofList digits) := by
  have hne : digits ≠ [] := List.ne_nil_of_length_pos (Nat.zero_lt_of_lt hlong)
  have hkey : IsLongKey (String.ofList digits) := by
    rw [IsLongKey, String.toList_ofList, dropFinalLineFeed_digits hdigits]
    exact ⟨isAll_iff.mpr ⟨hne, fun c hc => (isDigit_spec (hdigits c hc)).1⟩, hlong⟩
  have hpart : IsPart digits [] :=
    ⟨fun c hc => PathStep.digit_spec (hdigits c hc), List.forall_mem_nil _⟩
  have hread : stepsOfParts digits = .ok (partSteps digits []) := by
    simpa [bracketed] using hpart.stepsOfParts_eq
  have hsteps : steps (String.ofList digits) = .ok [.key (String.ofList digits)] := by
    rw [steps_eq, String.toList_ofList, trim_of_forall fun c hc => (hpart.plain c hc).2.2, hread]
    simp [partSteps, hne]
  exact .inr ⟨.array items, _, rfl, hsteps, [], _, [], items, rfl, rfl, hkey⟩

/-- **Paths compose.** Two paths without blanks around them, joined by a dot, have the steps of the
first path and behind them those of the second one. From any datum the joined path leads to where
the second path leads from where the first one leads, and from nothing every path that can be read
leads to nothing. The joined path cannot be followed if and only if a numeral has too many digits,
in the first path from the datum or in the second one from where the first one leads. -/
theorem get_joined (datum : Datum) (hfront : trimmed front = front) (hback : trimmed back = back) :
    steps (front ++ "." ++ back) = (do return (← steps front) ++ (← steps back)) ∧
    get datum (front ++ "." ++ back) = (do get (← get datum front) back) ∧
    get .absent back = (steps back).map (fun _ => .absent) ∧
    ∀ fault, get datum (front ++ "." ++ back) = .error fault ↔ fault = .numeralTooLong ∧
      (IsOverlong datum front ∨ ∃ found, get datum front = .ok found ∧ IsOverlong found back) := by
  refine ⟨steps_append hfront hback, get_append datum hfront hback, get_absent back, ?_⟩
  intro fault
  rw [get_eq_error_iff, isOverlong_append_iff datum hfront hback]

/-- A path with a blank, an empty part and a bracket that does not close leads to a list, which is
then asked for an item of an item, and for a key of too many digits. -/
theorem get_joined_openBracket :
    let value : Value :=
      .object [("a b", .object [("[x", .array [.null, .array [.int 5, .int 7]])])]
    let digits := List.replicate (digitLimit + 1) '1'
    trimmed ".a b..[x" = ".a b..[x" ∧ trimmed "1[1]." = "1[1]." ∧
      trimmed (String.ofList digits) = String.ofList digits ∧
      steps ".a b..[x.1[1]." = .ok [.key "a b", .key "[x", .key "1", .index 1] ∧
      get (.json value) ".a b..[x.1[1]." = .ok (.json (.int 7)) ∧
      get (.json value) (".a b..[x" ++ "." ++ String.ofList digits) = .error .numeralTooLong := by
  intro value digits
  have hfront : trimmed ".a b..[x" = ".a b..[x" := by decide
  have hback : trimmed "1[1]." = "1[1]." := by decide
  have hones : ∀ c ∈ digits, c.isDigit = true := fun c hc => by
    rw [List.eq_of_mem_replicate hc]
    decide
  have hdigits : trimmed (String.ofList digits) = String.ofList digits := by
    rw [trimmed_eq_self_iff, String.toList_ofList]
    exact trim_of_forall fun c hc => (isDigit_spec (hones c hc)).2.1
  have hlong : digitLimit < digits.length := by
    rw [List.length_replicate]
    exact Nat.lt_succ_self digitLimit
  obtain ⟨hsteps, hget, -⟩ := get_joined (.json value) hfront hback
  obtain ⟨-, -, -, hfault⟩ := get_joined (.json value) hfront hdigits
  have hlist : get (.json value) ".a b..[x" =
      .ok (.json (.array [.null, .array [.int 5, .int 7]])) := rfl
  exact ⟨hfront, hback, hdigits, hsteps, hget,
    (hfault _).mpr ⟨rfl, .inr ⟨_, hlist, isOverlong_digits _ hones hlong⟩⟩⟩

end RequestScript.AccessPath
