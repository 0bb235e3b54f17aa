import RequestScript.Proofs.Variables.Room
import RequestScript.Proofs.World.Steady

/-!
# The actions on a world

Looking up files only reads the world. Drawing, interpolating, writing files, waiting and calling
are steady.
-/

namespace RequestScript.Action

variable {α : Type}

section Reading

variable {path : Path}

theorem reads_locate : Reads (locate path) := by
  have hplace : Reads (do return path.locate (← getThe World).directory) :=
    .bind_get (fun _ => .pure _) fun _ _ _ => rfl
  unfold locate
  dsimp only
  split
  · refine (Reads.throw _).bind fun _ => ?_
    split
    · exact (Reads.throw _).bind fun _ => hplace
    · exact hplace
  · split
    · exact (Reads.throw _).bind fun _ => hplace
    · exact hplace

theorem reads_find : Reads (find path) := by
  unfold find
  exact reads_locate.bind fun _ => .bind_get (fun _ => .lift _) fun _ _ _ => rfl

theorem reads_find? : Reads (find? path) := by
  unfold find?
  refine .tryCatch ?_ fun fault => ?_
  · rw [map_eq_pure_bind]
    exact reads_find.bind fun node => .pure (some node)
  · split
    · exact .throw _
    · exact .pure none

theorem reads_isFile : Reads (isFile path) := by
  unfold isFile
  refine reads_find?.bind fun node => ?_
  split
  · exact .pure true
  · exact .pure false

theorem reads_isDirectory : Reads (isDirectory path) := by
  unfold isDirectory
  exact reads_find?.bind fun _ => .pure _

theorem reads_readBytes : Reads (readBytes path) := by
  unfold readBytes
  exact reads_locate.bind fun _ => .bind_get (fun _ => .lift _) fun _ _ _ => rfl

theorem reads_readText : Reads (readText path) := by
  unfold readText
  exact reads_readBytes.bind fun _ => .lift _

end Reading

theorem on_ofChance (chance : Chance α) (world : World) :
    (ofChance chance).on world =
      ((chance.run.run world.dice).1, { world with dice := (chance.run.run world.dice).2 }) := by
  unfold ofChance
  rw [on_bind, on_get]
  dsimp only
  rcases chance.run.run world.dice with ⟨_ | _, dice⟩ <;> rfl

theorem steady_needRoom (levels : Nat) : Steady (needRoom levels) := by
  let enough (room : Nat) : Except Fault Unit := if room < levels then .error .tooDeep else .ok ()
  have heq : needRoom levels = (do liftM (enough (← getThe World).room)) := by
    unfold needRoom
    congr 1
    funext world
    simp only [enough]
    split <;> rfl
  rw [heq]
  refine .ofRoom fun room more hle => ?_
  by_cases hlevels : room < levels
  · exact .inl (if_pos hlevels)
  · exact .inr (by simp only [enough, if_neg hlevels, if_neg (show ¬ more < levels by omega)])

/-- A text is replaced where there is room for the values that it shows. -/
theorem on_interpolate (text : String) (world : World) :
    (interpolate text).on world =
      let replaced := (world.store.interpolateWithin world.room world.clock text).on world.dice
      (replaced.1, { world with dice := replaced.2 }) := by
  unfold interpolate
  rw [on_bind, on_get]
  exact on_ofChance _ world

theorem steady_interpolate (text : String) : Steady (interpolate text) := by
  intro world
  refine ⟨[], by rw [on_interpolate]; rfl, by rw [on_interpolate], fun room events hle => ?_⟩
  have hmoved : (interpolate text).on (world.moved room events) =
      (((world.store.interpolateWithin room world.clock text).on world.dice).1,
        { world.moved room events with
          dice := ((world.store.interpolateWithin room world.clock text).on world.dice).2 }) :=
    on_interpolate text (world.moved room events)
  rw [hmoved, on_interpolate]
  rcases Store.on_interpolateWithin_more hle world.dice with hsame | hdeep
  · rw [hsame]
    exact .inl rfl
  · exact .inr ⟨hdeep, [], rfl⟩

theorem steady_writeText (path : Path) (text : String) : Steady (writeText path text) := by
  unfold writeText
  refine (Steady.of_reads reads_locate).bind fun place world => ?_
  rw [on_bind, on_get]
  dsimp only
  rw [on_bind, on_lift]
  cases hfiles : world.files.write place text.toUTF8 with
  | error fault =>
    refine ⟨[], rfl, rfl, fun room events _ => .inl ?_⟩
    rw [on_bind, on_get]
    dsimp only
    rw [on_bind, on_lift, show (world.moved room events).files = world.files from rfl, hfiles]
    rfl
  | ok files =>
    refine ⟨[.wrote (Path.normalize place) text.toUTF8], rfl, rfl, fun room events _ => .inl ?_⟩
    rw [on_bind, on_get]
    dsimp only
    rw [on_bind, on_lift, show (world.moved room events).files = world.files from rfl, hfiles]
    rfl

theorem steady_makeDirectory (path : Path) : Steady (makeDirectory path) := by
  unfold makeDirectory
  refine (Steady.of_reads reads_locate).bind fun names => ?_
  refine .of_moved fun world room events => ?_
  rw [on_bind, on_bind, on_get, on_get]
  dsimp only
  rw [on_bind, on_bind, on_lift, on_lift]
  rw [show (world.moved room events).files = world.files from rfl]
  cases world.files.makeDirectory names <;> rfl

theorem steady_orRefused {action : Action α} (path : Path) (h : Steady action) :
    Steady (orRefused path action) := by
  unfold orRefused
  refine (h.map _).tryCatch (fun fault => ?_) rfl
  split
  · exact .pure _
  · exact .throw fault

theorem steady_makeMissing (path : Path) : Steady (makeMissing path) := by
  unfold makeMissing
  refine (steady_orRefused path (steady_makeDirectory path)).bind fun made => ?_
  split
  · split
    · exact .pure _
    · refine (Steady.of_reads reads_isDirectory).bind fun found => ?_
      split <;> exact .pure _
  · exact .pure _

theorem steady_makeDirectories (path : Path) (steps : Nat) :
    Steady (makeDirectories path steps) := by
  induction steps generalizing path with
  | zero => exact steady_makeMissing path
  | succ steps ih =>
    unfold makeDirectories
    refine (steady_makeMissing path).bind fun made => ?_
    split
    · split
      · exact .pure _
      · refine (ih path.parent).bind fun parent => ?_
        split
        · exact steady_makeMissing path
        · exact .pure _
    · exact .pure _

theorem steady_ofOption (fault : Fault) (found : Option α) : Steady (ofOption fault found) := by
  cases found with
  | none => exact .throw fault
  | some x => exact .pure x

theorem steady_sleep (milliseconds : Int) : Steady (sleep milliseconds) := by
  unfold sleep
  refine (steady_ofOption _ _).bind fun seconds => (Steady.note _).bind fun _ => ?_
  exact (Steady.lift _).bind fun passed => .modify fun _ _ _ => rfl

theorem steady_send (call : Call) : Steady (send call) :=
  fun _ => ⟨[.sent call], rfl, rfl, fun _ _ _ => .inl rfl⟩

/-- An exchange is one call, but for messages in the log. -/
theorem on_exchange (method url : String) (headers : Option Headers) (payload : Payload)
    (timeout : Option Seconds) (world : World) :
    let call := Call.make method url headers payload timeout
    ∃ events, ((world.called call).moved world.room events).effects =
        world.effects ++ [.sent call] ∧
      (exchange method url headers payload timeout).on world =
        (Outcome.ofReply world.room timeout (world.replies world.calls),
          (world.called call).moved world.room events) := by
  intro call
  have heffects : ∀ logged : List Event, logged.filter (!·.isLogged) = [] → ∀ message,
      ((world.called call).moved world.room (logged ++ .sent call ::
        .logged exchangeLog message :: world.events)).effects = world.effects ++ [.sent call] := by
    intro logged hlogged message
    have hevents : ((world.called call).moved world.room (logged ++ .sent call ::
        .logged exchangeLog message :: world.events)).events =
        (logged ++ [.sent call, .logged exchangeLog message]) ++ world.events := by
      rw [List.append_assoc]
      rfl
    rw [World.effects_of_events hevents, List.filter_append, hlogged]
    rfl
  unfold exchange
  dsimp only
  rw [← bind_assoc, on_bind]
  rw [show (log exchangeLog (call.method ++ " " ++ url) >>= fun _ => send call).on world =
    (.ok (world.replies world.calls), (world.called call).moved world.room
      (.sent call :: .logged exchangeLog (call.method ++ " " ++ url) :: world.events)) from rfl]
  dsimp only
  rw [on_bind, on_get]
  dsimp only
  rw [on_bind, on_lift]
  rw [show ∀ events, ((world.called call).moved world.room events).room = world.room from
    fun _ => rfl]
  cases Outcome.ofReply world.room timeout (world.replies world.calls) with
  | error fault => exact ⟨_, heffects [] rfl _, rfl⟩
  | ok outcome =>
    dsimp only
    split
    · split
      · exact ⟨_, heffects [.logged _ _] rfl _, rfl⟩
      · exact ⟨_, heffects [] rfl _, rfl⟩
    · exact ⟨_, heffects [] rfl _, rfl⟩

theorem steady_exchange (method url : String) (headers : Option Headers) (payload : Payload)
    (timeout : Option Seconds) : Steady (exchange method url headers payload timeout) := by
  unfold exchange
  refine (Steady.log _ _).bind fun _ => (steady_send _).bind fun reply => ?_
  rw [← bind_assoc]
  have hreply : Steady (do liftM (Outcome.ofReply (← getThe World).room timeout reply)) :=
    .ofRoom fun room more hle => Outcome.ofReply_eqUnless hle timeout reply
  refine hreply.bind fun outcome => ?_
  dsimp only
  split
  · split
    · exact (Steady.log _ _).bind fun _ => .pure outcome
    · exact .pure outcome
  · exact .pure outcome

end RequestScript.Action
