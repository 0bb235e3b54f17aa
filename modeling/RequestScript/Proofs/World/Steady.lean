import RequestScript.Proofs.Value.Reader
import RequestScript.Proofs.World.Action

/-!
# Steady actions

A steady action notes the same events whatever has been noted before, and gives back the room that
it takes. More room makes no other difference to it than that it may go on where it was stopped
for want of room. Steadiness is closed under the ways in which actions are put together.
-/

namespace RequestScript.Action

variable {α β : Type}

/-- What an action notes does not depend on what has been noted before, it ends with the room that
it starts with, and with more room it does the same, or goes on where it was stopped for want
of room. -/
def Steady (action : Action α) : Prop :=
  ∀ world, ∃ new, (action.on world).2.events = new ++ world.events ∧
    (action.on world).2.room = world.room ∧
    ∀ room events, world.room ≤ room →
      action.on (world.moved room events) =
          ((action.on world).1, (action.on world).2.moved room (new ++ events)) ∨
        (action.on world).1 = .error .tooDeep ∧
          ∃ more, (action.on (world.moved room events)).2.events = more ++ (new ++ events)

namespace Steady

theorem room_eq {action : Action α} (h : Steady action) (world : World) :
    (action.on world).2.room = world.room := by
  obtain ⟨_, _, hroom, _⟩ := h world
  exact hroom

theorem exists_events {action : Action α} (h : Steady action) (world : World) :
    ∃ new, (action.on world).2.events = new ++ world.events := by
  obtain ⟨new, hevents, _⟩ := h world
  exact ⟨new, hevents⟩

/-- An action that notes nothing and does not notice how much room there is. -/
theorem of_moved {action : Action α}
    (h : ∀ world room events, action.on (world.moved room events) =
      ((action.on world).1, (action.on world).2.moved room events)) : Steady action := by
  intro world
  have hself := congrArg Prod.snd (h world world.room world.events)
  rw [World.moved_self] at hself
  refine ⟨[], ?_, ?_, fun room events _ => .inl (h world room events)⟩
  · rw [hself]
    rfl
  · rw [hself]
    rfl

theorem of_reads {action : Action α} (h : Reads action) : Steady action := by
  refine of_moved fun world room events => ?_
  rw [h world room events, h.on_eq world]

theorem pure (x : α) : Steady (Pure.pure x : Action α) :=
  of_reads (.pure x)

theorem throw (fault : Fault) : Steady (MonadExcept.throw fault : Action α) :=
  of_reads (.throw fault)

theorem lift (result : Except Fault α) : Steady (liftM result : Action α) :=
  of_reads (.lift result)

theorem note (event : Event) : Steady (Action.note event) :=
  fun _ => ⟨[event], rfl, rfl, fun _ _ _ => .inl rfl⟩

theorem log (source message : String) : Steady (Action.log source message) :=
  note _

theorem modify {f : World → World}
    (h : ∀ world room events, f (world.moved room events) = (f world).moved room events) :
    Steady (modify f) := by
  refine of_moved fun world room events => ?_
  rw [on_modify, on_modify, h]

/-- A result that depends on the room that there is, but only where there is too little of it. -/
theorem ofRoom {f : Nat → Except Fault α}
    (h : ∀ room more, room ≤ more → EqUnless .tooDeep (f room) (f more)) :
    Steady (do liftM (f (← getThe World).room)) := by
  intro world
  refine ⟨[], rfl, rfl, fun room events hroom => ?_⟩
  rcases h world.room room hroom with hdeep | hsame
  · exact .inr ⟨hdeep, [], rfl⟩
  · refine .inl ?_
    rw [on_bind, on_bind, on_get, on_get]
    exact congrArg (·, world.moved room events) hsame

theorem bind {action : Action α} {next : α → Action β} (h : Steady action)
    (hnext : ∀ x, Steady (next x)) : Steady (action >>= next) := by
  intro world
  obtain ⟨new, hevents, hroom, hmore⟩ := h world
  rw [on_bind]
  rcases hworld : action.on world with ⟨fault | x, after⟩
  · simp only [hworld] at hevents hroom hmore
    refine ⟨new, hevents, hroom, fun room events hle => ?_⟩
    rw [on_bind]
    rcases hmore room events hle with hsame | ⟨hdeep, more, hgoes⟩
    · rw [hsame]
      exact .inl rfl
    · refine .inr ⟨congrArg Except.error (Except.error.inj hdeep), ?_⟩
      rcases hlarge : action.on (world.moved room events) with ⟨_ | y, between⟩
      · rw [hlarge] at hgoes
        exact ⟨more, hgoes⟩
      · obtain ⟨later, hlater⟩ := (hnext y).exists_events between
        rw [hlarge] at hgoes
        exact ⟨later ++ more, by rw [hlater, hgoes, List.append_assoc]⟩
  · simp only [hworld] at hevents hroom hmore
    obtain ⟨later, hlater, hback, hthen⟩ := hnext x after
    refine ⟨later ++ new, by rw [hlater, hevents, List.append_assoc], hback.trans hroom, ?_⟩
    intro room events hle
    rw [on_bind]
    rcases hmore room events hle with hsame | ⟨hdeep, _⟩
    · simp only [hsame, List.append_assoc]
      exact hthen room (new ++ events) (by omega)
    · cases hdeep

/-- What an action does next may depend on every part of the world but the room and the events. -/
theorem bind_get {next : World → Action α} (h : ∀ world, Steady (next world))
    (hmoved : ∀ world room events, next (world.moved room events) = next world) :
    Steady (getThe World >>= next) := by
  intro world
  obtain ⟨new, hevents, hroom, hmore⟩ := h world world
  rw [on_bind, on_get]
  refine ⟨new, hevents, hroom, fun room events hle => ?_⟩
  rw [on_bind, on_get]
  simp only [hmoved]
  exact hmore room events hle

theorem map {action : Action α} (f : α → β) (h : Steady action) : Steady (f <$> action) := by
  rw [map_eq_pure_bind]
  exact h.bind fun x => pure (f x)

/-- A handler that lets a want of room pass. -/
theorem tryCatch {action : Action α} {handle : Fault → Action α} (h : Steady action)
    (hhandle : ∀ fault, Steady (handle fault))
    (hdeep : handle .tooDeep = MonadExcept.throw .tooDeep) :
    Steady (tryCatch action handle) := by
  intro world
  obtain ⟨new, hevents, hroom, hmore⟩ := h world
  rw [on_tryCatch]
  rcases hworld : action.on world with ⟨fault | x, after⟩
  · simp only [hworld] at hevents hroom hmore
    obtain ⟨later, hlater, hback, hthen⟩ := hhandle fault after
    refine ⟨later ++ new, by rw [hlater, hevents, List.append_assoc], hback.trans hroom, ?_⟩
    intro room events hle
    rw [on_tryCatch]
    rcases hmore room events hle with hsame | ⟨hfault, more, hgoes⟩
    · simp only [hsame, List.append_assoc]
      exact hthen room (new ++ events) (by omega)
    · obtain rfl : fault = .tooDeep := Except.error.inj hfault
      simp only [hdeep, on_throw] at hlater ⊢
      obtain rfl : later = [] := List.self_eq_append_left.mp hlater
      refine .inr ⟨trivial, ?_⟩
      rcases hlarge : action.on (world.moved room events) with ⟨other | y, between⟩
      · obtain ⟨last, hlast⟩ := (hhandle other).exists_events between
        rw [hlarge] at hgoes
        exact ⟨last ++ more, by rw [hlast, hgoes, List.nil_append, List.append_assoc]⟩
      · rw [hlarge] at hgoes
        exact ⟨more, hgoes⟩
  · simp only [hworld] at hevents hroom hmore
    refine ⟨new, hevents, hroom, fun room events hle => ?_⟩
    rw [on_tryCatch]
    rcases hmore room events hle with hsame | ⟨hfault, _⟩
    · rw [hsame]
      exact .inl rfl
    · cases hfault

theorem deeper {action : Action α} (levels : Nat) (h : Steady action) :
    Steady (Action.deeper levels action) := by
  intro world
  by_cases hlevels : world.room < levels
  · have hsmall : (Action.deeper levels action).on world = (.error .tooDeep, world) := by
      rw [on_deeper, if_pos hlevels]
    rw [hsmall]
    refine ⟨[], rfl, rfl, fun room events _ => .inr ⟨rfl, ?_⟩⟩
    rw [on_deeper]
    split
    · exact ⟨[], rfl⟩
    · exact h.exists_events (world.moved (room - levels) events)
  · obtain ⟨new, hevents, _, hmore⟩ := h (world.moved (world.room - levels) world.events)
    rw [on_deeper, if_neg hlevels]
    refine ⟨new, hevents, rfl, fun room events hle => ?_⟩
    have hroom : ¬ (world.moved room events).room < levels := Nat.not_lt.mpr
      (Nat.le_trans (Nat.not_lt.mp hlevels) hle)
    rw [on_deeper, if_neg hroom]
    rcases hmore (room - levels) events (Nat.sub_le_sub_right hle levels) with
      hsame | ⟨hdeep, more, hgoes⟩
    · refine .inl ?_
      simp only [World.moved_moved] at hsame
      have hlarge : ((world.moved room events).moved ((world.moved room events).room - levels)
          (world.moved room events).events) = world.moved (room - levels) events := rfl
      simp only [hlarge, hsame, World.moved_moved]
      rfl
    · exact .inr ⟨hdeep, more, hgoes⟩

theorem mapM {f : α → Action β} (h : ∀ x, Steady (f x)) (xs : List α) : Steady (xs.mapM f) := by
  induction xs with
  | nil => exact pure []
  | cons x xs ih =>
    rw [List.mapM_cons]
    exact (h x).bind fun y => ih.bind fun ys => pure (y :: ys)

theorem forM {f : α → Action Unit} (h : ∀ x, Steady (f x)) (xs : List α) : Steady (xs.forM f) := by
  induction xs with
  | nil => exact pure ()
  | cons x xs ih => exact (h x).bind fun _ => ih

end Steady

end RequestScript.Action
