import RequestScript.World

/-!
# Actions in a world

What an action does in a world, step by step. Most actions do not notice how much room there is
and what has been noted before. Some of them only read the world (`Reads`); the others note the
same events whatever has been noted before, and more room changes nothing but that an action
may go on where it was stopped for want of room (`Steady`). Both properties are closed under
the ways in which actions are put together.
-/

namespace RequestScript

/-- The world with another amount of room and other events. -/
def World.moved (world : World) (room : Nat) (events : List Event) : World :=
  { world with room, events }

/-- A world without files and variables, where every call gets an empty response. -/
def World.quiet : World :=
  { files := ⟨[]⟩
    dice := { source := fun _ => 0 }
    replies := fun _ => .response 200 [] "" none 0 }

/-- Whether an event is no more than a message in the log. -/
def Event.isLogged : Event → Bool
  | .logged .. => true
  | _ => false

/-- What has been done but for messages in the log, the first event first. -/
def World.effects (world : World) : List Event :=
  (world.events.filter (!·.isLogged)).reverse

/-- The world after a call. -/
def World.called (world : World) (call : Call) : World :=
  let passed : Int := match world.replies world.calls with
    | .response _ _ _ _ elapsed => elapsed
    | .failure .. => 0
  { world with
    calls := world.calls + 1
    elapsed := world.elapsed + passed
    events := .sent call :: world.events }

@[simp] theorem World.moved_moved (world : World) (room other : Nat) (events more : List Event) :
    (world.moved room events).moved other more = world.moved other more := rfl

@[simp] theorem World.moved_self (world : World) :
    world.moved world.room world.events = world := rfl

theorem World.effects_of_events {world after : World} {new : List Event}
    (h : after.events = new ++ world.events) :
    after.effects = world.effects ++ (new.filter (!·.isLogged)).reverse := by
  unfold effects
  rw [h, List.filter_append, List.reverse_append]

namespace Action

variable {α β : Type} {world : World}

/-- The result of an action in a world, and the world after it. -/
def on (action : Action α) (world : World) : Except Fault α × World :=
  action.run.run world

theorem on_pure (x : α) : on (pure x) world = (.ok x, world) := rfl

theorem on_throw (fault : Fault) : on (throw fault : Action α) world = (.error fault, world) := rfl

theorem on_get : on (getThe World) world = (.ok world, world) := rfl

theorem on_set (other : World) : on (set other : Action PUnit) world = (.ok ⟨⟩, other) := rfl

theorem on_modify (f : World → World) : on (modify f) world = (.ok ⟨⟩, f world) := rfl

theorem on_lift (result : Except Fault α) :
    on (liftM result : Action α) world = (result, world) := rfl

theorem on_note (event : Event) :
    on (note event) world = (.ok ⟨⟩, world.moved world.room (event :: world.events)) := rfl

theorem on_send (call : Call) :
    on (send call) world = (.ok (world.replies world.calls), world.called call) := rfl

theorem on_bind (action : Action α) (next : α → Action β) :
    on (action >>= next) world =
      match action.on world with
      | (.ok x, after) => (next x).on after
      | (.error fault, after) => (.error fault, after) := by
  unfold on
  rw [ExceptT.run_bind, StateT.run_bind]
  rcases StateT.run (ExceptT.run action) world with ⟨_ | _, _⟩ <;> rfl

theorem on_bind_error {action : Action α} {next : α → Action β} {fault : Fault} {after : World}
    (h : action.on world = (.error fault, after)) :
    on (action >>= next) world = (.error fault, after) := by
  rw [on_bind, h]

theorem on_bind_of_ok {action : Action α} {next : α → Action β} {x : α} {between : World}
    (h : action.on world = (.ok x, between)) :
    on (action >>= next) world = (next x).on between := by
  rw [on_bind, h]

theorem on_map_snd (action : Action α) (f : α → β) :
    (on (action >>= fun x => pure (f x)) world).2 = (action.on world).2 := by
  rw [on_bind]
  rcases action.on world with ⟨_ | _, _⟩ <;> rfl

theorem on_tryCatch (action : Action α) (handle : Fault → Action α) :
    on (tryCatch action handle) world =
      match action.on world with
      | (.ok x, after) => (.ok x, after)
      | (.error fault, after) => (handle fault).on after := by
  unfold on
  rw [ExceptT.run_tryCatch, StateT.run_bind]
  rcases StateT.run (ExceptT.run action) world with ⟨_ | _, _⟩ <;> rfl

theorem on_tryFinally (action : Action α) (f : World → World) :
    on (tryFinally action (modify f)) world = ((action.on world).1, f (action.on world).2) := by
  unfold on tryFinally ExceptT.run StateT.run
  simp only [tryFinally', Functor.map, ExceptT.map, ExceptT.mk, StateT.bind, bind]
  rcases action world with ⟨_ | _, _⟩ <;> rfl

/-- An action that something waits for has less room, and gives it back. -/
theorem on_deeper (levels : Nat) (action : Action α) :
    on (deeper levels action) world =
      if world.room < levels then (.error .tooDeep, world)
      else
        let inner := action.on (world.moved (world.room - levels) world.events)
        (inner.1, inner.2.moved world.room inner.2.events) := by
  unfold deeper
  simp only [on_bind, on_get]
  split
  · rfl
  · simp only [on_modify, on_bind, on_tryFinally]
    rfl

/-- What a sequence of two actions gives if it ends well. -/
theorem on_bind_ok {action : Action α} {next : α → Action β} {result : β} {after : World}
    (h : on (action >>= next) world = (.ok result, after)) :
    ∃ x between, action.on world = (.ok x, between) ∧
      (next x).on between = (.ok result, after) := by
  rw [on_bind] at h
  rcases haction : action.on world with ⟨_ | x, between⟩
  · simp [haction] at h
  · exact ⟨x, between, rfl, by simpa [haction] using h⟩

/-- A result that is no fault changes nothing. -/
theorem on_lift_ok {result : Except Fault α} {x : α} {after : World}
    (h : on (liftM result : Action α) world = (.ok x, after)) : result = .ok x ∧ world = after :=
  Prod.mk.inj h

/-- An action whose result is no fault has a result. -/
theorem exists_on_of_isOk {action : Action α} (h : (action.on world).1.isOk = true) :
    ∃ result after, action.on world = (.ok result, after) := by
  rcases haction : action.on world with ⟨_ | result, after⟩
  · rw [haction] at h
    cases h
  · exact ⟨result, after, rfl⟩

/-- What an action that something waits for gives if it ends well. -/
theorem on_deeper_ok {levels : Nat} {action : Action α} {result : α} {after : World}
    (h : on (deeper levels action) world = (.ok result, after)) :
    ∃ inner, action.on (world.moved (world.room - levels) world.events) = (.ok result, inner) ∧
      after = inner.moved world.room inner.events := by
  rw [on_deeper] at h
  split at h
  · cases h
  · obtain ⟨hresult, hafter⟩ := Prod.mk.inj h
    exact ⟨_, Prod.ext hresult rfl, hafter.symm⟩

/-- An action that changes nothing, and whose result depends neither on the room nor on what has
been noted. -/
def Reads (action : Action α) : Prop :=
  ∀ world room events,
    action.on (world.moved room events) = ((action.on world).1, world.moved room events)

namespace Reads

theorem on_eq {action : Action α} (h : Reads action) (world : World) :
    action.on world = ((action.on world).1, world) :=
  h world world.room world.events

theorem pure (x : α) : Reads (Pure.pure x : Action α) := fun _ _ _ => rfl

theorem throw (fault : Fault) : Reads (MonadExcept.throw fault : Action α) := fun _ _ _ => rfl

theorem lift (result : Except Fault α) : Reads (liftM result : Action α) := fun _ _ _ => rfl

/-- What an action does next may depend on every part of the world but the room and the events. -/
theorem bind_get {next : World → Action α} (h : ∀ world, Reads (next world))
    (hmoved : ∀ world room events, next (world.moved room events) = next world) :
    Reads (getThe World >>= next) := by
  intro world room events
  rw [on_bind, on_bind, on_get, on_get]
  simp only [hmoved]
  exact h world world room events

theorem bind {action : Action α} {next : α → Action β} (h : Reads action)
    (hnext : ∀ x, Reads (next x)) : Reads (action >>= next) := by
  intro world room events
  rw [on_bind, on_bind, h world room events, h.on_eq world]
  cases (action.on world).1 with
  | error fault => rfl
  | ok x => exact hnext x world room events

theorem tryCatch {action : Action α} {handle : Fault → Action α} (h : Reads action)
    (hhandle : ∀ fault, Reads (handle fault)) : Reads (tryCatch action handle) := by
  intro world room events
  rw [on_tryCatch, on_tryCatch, h world room events, h.on_eq world]
  cases (action.on world).1 with
  | error fault => exact hhandle fault world room events
  | ok x => rfl

end Reads

end Action

end RequestScript
