import RequestScript.Dice

/-!
# What a random computation gives

The result of a computation that draws, for the dice at hand, and the dice after it.
-/

namespace RequestScript.Chance

variable {α β : Type} {dice : Dice}

/-- The result of a computation that draws, and the dice after it. -/
def on (chance : Chance α) (dice : Dice) : Except Fault α × Dice :=
  chance.run.run dice

theorem on_pure (x : α) : on (pure x) dice = (.ok x, dice) := rfl

theorem on_throw (fault : Fault) : on (throw fault : Chance α) dice = (.error fault, dice) := rfl

theorem on_lift (result : Except Fault α) :
    on (liftM result : Chance α) dice = (result, dice) := by
  cases result <;> rfl

theorem on_bind (chance : Chance α) (next : α → Chance β) :
    on (chance >>= next) dice =
      match chance.on dice with
      | (.ok x, after) => (next x).on after
      | (.error fault, after) => (.error fault, after) := by
  unfold on
  rw [ExceptT.run_bind, StateT.run_bind]
  rcases StateT.run (ExceptT.run chance) dice with ⟨_ | _, _⟩ <;> rfl

theorem on_discard (chance : Chance α) :
    on (discard chance) dice =
      match chance.on dice with
      | (.ok _, after) => (.ok ⟨⟩, after)
      | (.error fault, after) => (.error fault, after) :=
  on_bind chance _

/-! ## Computations that nothing stops -/

/-- Nothing stops a computation, whatever is drawn. -/
def Total (chance : Chance α) : Prop :=
  ∀ dice, ∃ x after, chance.on dice = (.ok x, after)

theorem total_pure (x : α) : Total (pure x) :=
  fun dice => ⟨x, dice, rfl⟩

theorem Total.bind {chance : Chance α} {next : α → Chance β} (h : chance.Total)
    (hnext : ∀ x, (next x).Total) : (chance >>= next).Total := by
  intro dice
  obtain ⟨x, after, hx⟩ := h dice
  obtain ⟨y, last, hy⟩ := hnext x after
  exact ⟨y, last, by rw [on_bind, hx]; exact hy⟩

theorem total_draw : draw.Total :=
  fun dice => ⟨dice.source dice.used, { dice with used := dice.used + 1 }, rfl⟩

theorem total_below (bound : Nat) : (below bound).Total :=
  total_draw.bind fun _ => total_pure _

theorem total_pick (default : α) (members : List α) : (pick default members).Total :=
  (total_below _).bind fun _ => total_pure _

theorem total_between (low high : Int) : (between low high).Total :=
  total_draw.bind fun _ => total_pure _

theorem total_characters (alphabet : List Char) (length : Nat) :
    (characters alphabet length).Total := by
  induction length with
  | zero => exact total_pure _
  | succ length ih => exact (total_pick _ _).bind fun _ => ih.bind fun _ => total_pure _

theorem total_randomIdentifier : randomIdentifier.Total :=
  (total_below _).bind fun _ => total_pure _

theorem Total.ne_error {chance : Chance α} (h : chance.Total) (fault : Fault) :
    (chance.on dice).1 ≠ .error fault := by
  obtain ⟨x, after, hx⟩ := h dice
  simp [hx]

/-- What follows a computation that nothing stops is all that can be stopped. -/
theorem Total.bind_eq_error_iff {chance : Chance α} {next : α → Chance β} {stops : Prop}
    {fault : Fault} (h : chance.Total)
    (hnext : ∀ x dice, ((next x).on dice).1 = .error fault ↔ stops) :
    ((chance >>= next).on dice).1 = .error fault ↔ stops := by
  obtain ⟨x, after, hx⟩ := h dice
  rw [on_bind, hx]
  exact hnext x after

/-! ## Computations for each item of a list -/

section Lists

variable {f : α → Chance β} {bad : α → Fault → Prop}
  (hf : ∀ x dice fault, ((f x).on dice).1 = .error fault ↔ bad x fault) {xs : List α}

include hf

/-- The first item whose computation is stopped stops the computations for a list, if what stops
them does not depend on what is drawn. -/
theorem mapM_eq_error_iff {fault : Fault} :
    ((xs.mapM f).on dice).1 = .error fault ↔ ∃ before x after, xs = before ++ x :: after ∧
      (∀ earlier ∈ before, ∀ other, ¬bad earlier other) ∧ bad x fault := by
  induction xs generalizing dice with
  | nil => simp [on_pure]
  | cons x rest ih =>
    have hx := hf x dice
    rw [List.mapM_cons, on_bind]
    revert hx
    rcases (f x).on dice with ⟨first | y, after⟩ <;> intro hx
    · have hbad : bad x first := (hx first).mp rfl
      constructor
      · intro h
        obtain rfl := Except.error.inj h
        exact ⟨[], x, rest, rfl, nofun, hbad⟩
      · rintro ⟨before, worst, back, hxs, hbefore, hfault⟩
        cases before with
        | nil =>
          obtain ⟨rfl, rfl⟩ := List.cons.inj hxs
          exact Except.error.inj ((hx fault).mpr hfault) ▸ rfl
        | cons earlier before =>
          obtain ⟨rfl, -⟩ := List.cons.inj hxs
          exact absurd hbad (hbefore _ List.mem_cons_self first)
    · have hgood : ∀ other, ¬bad x other := fun other hbad => by
        simpa using (hx other).mpr hbad
      have hrest : (((rest.mapM f) >>= fun ys => pure (y :: ys)).on after).1 = .error fault ↔
          ((rest.mapM f).on after).1 = .error fault := by
        rw [on_bind]
        rcases (rest.mapM f).on after with ⟨_ | _, _⟩
        · exact ⟨fun h => Except.error.inj h ▸ rfl, fun h => Except.error.inj h ▸ rfl⟩
        · exact ⟨nofun, nofun⟩
      refine hrest.trans (ih.trans ?_)
      constructor
      · rintro ⟨before, worst, back, rfl, hbefore, hfault⟩
        exact ⟨x :: before, worst, back, rfl, List.forall_mem_cons.mpr ⟨hgood, hbefore⟩, hfault⟩
      · rintro ⟨before, worst, back, hxs, hbefore, hfault⟩
        cases before with
        | nil =>
          obtain ⟨rfl, rfl⟩ := List.cons.inj hxs
          exact absurd hfault (hgood fault)
        | cons earlier before =>
          obtain ⟨rfl, rfl⟩ := List.cons.inj hxs
          exact ⟨before, worst, back, rfl, (List.forall_mem_cons.mp hbefore).2, hfault⟩

/-- Nothing stops the computations for a list where nothing stops the one for an item. -/
theorem exists_mapM_eq_ok_iff :
    (∃ ys, ((xs.mapM f).on dice).1 = .ok ys) ↔ ∀ x ∈ xs, ∀ fault, ¬bad x fault := by
  classical
  constructor
  · rintro ⟨ys, hys⟩ x hx fault hbad
    have hfound : (xs.find? fun x => ∃ fault, bad x fault).isSome :=
      List.find?_isSome.mpr ⟨x, hx, decide_eq_true ⟨fault, hbad⟩⟩
    obtain ⟨first, hfirst⟩ := Option.isSome_iff_exists.mp hfound
    obtain ⟨hworst, before, after, hsplit, hbefore⟩ := List.find?_eq_some_iff_append.mp hfirst
    obtain ⟨other, hother⟩ := of_decide_eq_true hworst
    have herror : ((xs.mapM f).on dice).1 = .error other :=
      (mapM_eq_error_iff hf).mpr
        ⟨before, first, after, hsplit, by simpa using hbefore, hother⟩
    rw [hys] at herror
    cases herror
  · intro hgood
    cases hresult : ((xs.mapM f).on dice).1 with
    | ok ys => exact ⟨ys, rfl⟩
    | error fault =>
      obtain ⟨before, x, after, rfl, -, hbad⟩ := (mapM_eq_error_iff hf).mp hresult
      exact absurd hbad (hgood x (by simp) fault)

end Lists

end RequestScript.Chance
