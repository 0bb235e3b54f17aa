import RequestScript.Exchange

/-!
# Reading JSON texts with more room

The room for arrays and objects inside each other decides only whether a text is refused. A text
that is not refused for want of room is read the same with more room.
-/

namespace RequestScript

/-- A result that a second one equals, unless the first is a given error. -/
def EqUnless {ε α : Type} (error : ε) (result other : Except ε α) : Prop :=
  result = .error error ∨ other = result

namespace EqUnless

variable {ε α β : Type} {error : ε}

theorem refl (result : Except ε α) : EqUnless error result result := .inr rfl

theorem bind {result other : Except ε α} {next more : α → Except ε β}
    (h : EqUnless error result other) (hnext : ∀ x, EqUnless error (next x) (more x)) :
    EqUnless error (result >>= next) (other >>= more) := by
  rcases h with rfl | rfl
  · exact .inl rfl
  · cases other with
    | error fault => exact .inr rfl
    | ok x => exact hnext x

end EqUnless

namespace Value

mutual

/-- A value is read the same with more room, unless there was too little of it. -/
theorem readValue_eqUnless {room more : Nat} (hroom : room ≤ more) (fuel : Nat)
    (cs : List Char) :
    EqUnless .tooDeep (readValue fuel room cs) (readValue fuel more cs) := by
  match fuel, cs with
  | 0, _ => exact .refl _
  | _ + 1, [] => exact .refl _
  | fuel + 1, c :: rest =>
    rw [readValue, readValue]
    split
    · exact .refl _
    split
    · by_cases hnone : room = 0
      · rw [if_pos hnone]
        exact .inl rfl
      rw [if_neg hnone, if_neg (by omega)]
      split
      · exact .refl _
      · exact (readItems_eqUnless (by omega) fuel _).bind fun _ => .refl _
    split
    · by_cases hnone : room = 0
      · rw [if_pos hnone]
        exact .inl rfl
      rw [if_neg hnone, if_neg (by omega)]
      split
      · exact .refl _
      · exact (readFields_eqUnless (by omega) fuel _).bind fun _ => .refl _
    · exact .refl _
termination_by structural fuel

/-- Items are read the same with more room, unless there was too little of it. -/
theorem readItems_eqUnless {room more : Nat} (hroom : room ≤ more) (fuel : Nat)
    (cs : List Char) :
    EqUnless .tooDeep (readItems fuel room cs) (readItems fuel more cs) := by
  match fuel with
  | 0 => exact .refl _
  | fuel + 1 =>
    rw [readItems, readItems]
    refine (readValue_eqUnless hroom fuel cs).bind fun (item, rest) => ?_
    dsimp only
    split
    · exact .refl _
    · exact (readItems_eqUnless hroom fuel _).bind fun _ => .refl _
    · exact .refl _
termination_by structural fuel

/-- Fields are read the same with more room, unless there was too little of it. -/
theorem readFields_eqUnless {room more : Nat} (hroom : room ≤ more) (fuel : Nat)
    (cs : List Char) :
    EqUnless .tooDeep (readFields fuel room cs) (readFields fuel more cs) := by
  match fuel with
  | 0 => exact .refl _
  | fuel + 1 =>
    unfold readFields
    split
    · refine (EqUnless.refl _).bind fun (name, rest) => ?_
      dsimp only
      split
      · refine (readValue_eqUnless hroom fuel _).bind fun (value, rest) => ?_
        dsimp only
        split
        · exact .refl _
        · exact (readFields_eqUnless hroom fuel _).bind fun _ => .refl _
        · exact .refl _
      · exact .refl _
    · exact .refl _
termination_by structural fuel

end

/-- A text is read the same with more room, unless there was too little of it. -/
theorem ofJson_eqUnless {room more : Nat} (hroom : room ≤ more) (cs : List Char) :
    EqUnless .tooDeep (ofJson room cs) (ofJson more cs) := by
  unfold ofJson
  split
  · exact .refl _
  · exact (readValue_eqUnless hroom _ _).bind fun _ => .refl _

/-- A text that may be no JSON text is read the same with more room, unless there was too little
of it. -/
theorem read_eqUnless {room more : Nat} (hroom : room ≤ more) (s : String) :
    EqUnless .tooDeep (read room s) (read more s) := by
  unfold read
  rcases ofJson_eqUnless hroom s.toList with hdeep | hsame
  · rw [hdeep]
    exact .inl rfl
  · rw [hsame]
    exact .refl _

end Value

/-- A reply has the same outcome with more room, unless there was too little of it. -/
theorem Outcome.ofReply_eqUnless {room more : Nat} (hroom : room ≤ more)
    (timeout : Option Seconds) (reply : Reply) :
    EqUnless .tooDeep (ofReply room timeout reply) (ofReply more timeout reply) := by
  cases reply with
  | response status headers text cookieHeaders elapsed =>
    exact (Value.read_eqUnless hroom text).bind fun _ => .refl _
  | failure failure message => cases failure <;> exact .refl _

end RequestScript
