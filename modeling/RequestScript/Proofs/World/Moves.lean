import Mathlib.Order.Defs.Unbundled
import RequestScript.Proofs.World.SteadyActions
import RequestScript.Run.Capture

/-!
# Where actions lead

An action leads from each world to another one, whether it ends well or not. What some kinds of
actions leave alone is a reflexive and transitive relation between the two worlds, which every
action of the kind follows (`Moves`): making a text draws values and no more (`World.Draws`), saving
writes files and no more (`World.Writes`), and keeping values writes variables and files and no more
(`World.Keeps`).
-/

namespace RequestScript

/-- Whether an event is that a variable is kept or a file is written. -/
def Event.isKept : Event → Bool
  | .set .. | .kept .. | .wrote .. => true
  | _ => false

namespace World

/-- From one world to another one with nothing but draws, and messages in the log. -/
def Draws (world after : World) : Prop :=
  ∃ dice logged, after = { world with dice, events := logged ++ world.events } ∧
    ∀ event ∈ logged, event.isLogged

/-- From one world to another one with nothing but files written, and messages in the log. -/
def Writes (world after : World) : Prop :=
  ∃ files new, after = { world with files, events := new ++ world.events } ∧
    ∀ event ∈ new, event.isLogged ∨ event.isKept

/-- From one world to another one with nothing but variables kept and files written, and messages
in the log. -/
def Keeps (world after : World) : Prop :=
  ∃ files store new, after = { world with files, store, events := new ++ world.events } ∧
    ∀ event ∈ new, event.isLogged ∨ event.isKept

instance : IsPreorder World Draws where
  refl world := ⟨world.dice, [], rfl, by simp⟩
  trans := by
    rintro world _ _ ⟨dice, logged, rfl, hlogged⟩ ⟨last, more, rfl, hmore⟩
    refine ⟨last, more ++ logged, by rw [List.append_assoc], fun event hmem => ?_⟩
    exact (List.mem_append.mp hmem).elim (hmore event) (hlogged event)

instance : IsPreorder World Writes where
  refl world := ⟨world.files, [], rfl, by simp⟩
  trans := by
    rintro world _ _ ⟨files, new, rfl, hnew⟩ ⟨last, more, rfl, hmore⟩
    refine ⟨last, more ++ new, by rw [List.append_assoc], fun event hmem => ?_⟩
    exact (List.mem_append.mp hmem).elim (hmore event) (hnew event)

instance : IsPreorder World Keeps where
  refl world := ⟨world.files, world.store, [], rfl, by simp⟩
  trans := by
    rintro world _ _ ⟨files, store, new, rfl, hnew⟩ ⟨lastFiles, lastStore, more, rfl, hmore⟩
    refine ⟨lastFiles, lastStore, more ++ new, by rw [List.append_assoc], fun event hmem => ?_⟩
    exact (List.mem_append.mp hmem).elim (hmore event) (hnew event)

variable {world after : World}

/-- Draws have no effect. -/
theorem Draws.effects_eq (h : Draws world after) : after.effects = world.effects := by
  obtain ⟨dice, logged, rfl, hlogged⟩ := h
  have hnone : logged.filter (!·.isLogged) = [] := by
    rw [List.filter_eq_nil_iff]
    intro event hmem
    simp [hlogged event hmem]
  simp [effects, hnone]

theorem Writes.keeps (h : Writes world after) : Keeps world after := by
  obtain ⟨files, new, hafter, hnew⟩ := h
  exact ⟨files, world.store, new, hafter, hnew⟩

/-- All that is done is to keep something. -/
theorem Keeps.exists_effects (h : Keeps world after) :
    ∃ kept, after.effects = world.effects ++ kept ∧ ∀ event ∈ kept, event.isKept := by
  obtain ⟨files, store, new, rfl, hnew⟩ := h
  refine ⟨_, effects_of_events rfl, fun event hmem => ?_⟩
  rw [List.mem_reverse, List.mem_filter] at hmem
  rcases hnew event hmem.1 with hlogged | hkept
  · simp [hlogged] at hmem
  · exact hkept

end World

namespace Action

variable {α β : Type} {rel : World → World → Prop}

/-- From every world an action leads along a relation. -/
def Moves (rel : World → World → Prop) (action : Action α) : Prop :=
  ∀ world, rel world (action.on world).2

namespace Moves

theorem bind_get {next : World → Action α} (h : ∀ world, Moves rel (next world)) :
    Moves rel (getThe World >>= next) := by
  intro world
  rw [on_bind, on_get]
  exact h world world

/-- Where an action that has been run has led to. -/
theorem rel_of_on {action : Action α} (h : Moves rel action) {result : Except Fault α}
    {world after : World} (hon : action.on world = (result, after)) : rel world after := by
  have hrel := h world
  rwa [hon] at hrel

theorem mono {other : World → World → Prop} {action : Action α} (h : Moves rel action)
    (hother : ∀ {world after}, rel world after → other world after) : Moves other action :=
  fun world => hother (h world)

variable [IsPreorder World rel]

theorem of_reads {action : Action α} (h : Reads action) : Moves rel action := by
  intro world
  rw [h.on_eq world]
  exact Std.Refl.refl world

theorem pure (x : α) : Moves rel (Pure.pure x : Action α) :=
  of_reads (.pure x)

theorem throw (fault : Fault) : Moves rel (MonadExcept.throw fault : Action α) :=
  of_reads (.throw fault)

theorem lift (result : Except Fault α) : Moves rel (liftM result : Action α) :=
  of_reads (.lift result)

theorem bind {action : Action α} {next : α → Action β} (h : Moves rel action)
    (hnext : ∀ x, Moves rel (next x)) : Moves rel (action >>= next) := by
  intro world
  have hfirst := h world
  rw [on_bind]
  rcases hworld : action.on world with ⟨fault | x, between⟩
  · rw [hworld] at hfirst
    exact hfirst
  · rw [hworld] at hfirst
    exact IsTrans.trans _ _ _ hfirst (hnext x between)

theorem map {action : Action α} (f : α → β) (h : Moves rel action) : Moves rel (f <$> action) := by
  rw [map_eq_pure_bind]
  exact h.bind fun x => pure (f x)

theorem tryCatch {action : Action α} {handle : Fault → Action α} (h : Moves rel action)
    (hhandle : ∀ fault, Moves rel (handle fault)) : Moves rel (tryCatch action handle) := by
  intro world
  have hfirst := h world
  rw [on_tryCatch]
  rcases hworld : action.on world with ⟨fault | x, between⟩
  · rw [hworld] at hfirst
    exact IsTrans.trans _ _ _ hfirst (hhandle fault between)
  · rw [hworld] at hfirst
    exact hfirst

theorem mapM {f : α → Action β} (h : ∀ x, Moves rel (f x)) (xs : List α) :
    Moves rel (xs.mapM f) := by
  induction xs with
  | nil => exact pure []
  | cons x xs ih =>
    rw [List.mapM_cons]
    exact (h x).bind fun y => ih.bind fun ys => pure (y :: ys)

theorem forM {f : α → Action Unit} (h : ∀ x, Moves rel (f x)) (xs : List α) :
    Moves rel (xs.forM f) := by
  induction xs with
  | nil => exact pure ()
  | cons x xs ih => exact (h x).bind fun _ => ih

end Moves

/-! ## Drawing -/

theorem draws_log (source message : String) : Moves World.Draws (log source message) :=
  fun world => ⟨world.dice, [.logged source message], rfl, by simp [Event.isLogged]⟩

theorem draws_ofChance (chance : Chance α) : Moves World.Draws (ofChance chance) := by
  intro world
  rw [on_ofChance]
  exact ⟨_, [], rfl, by simp⟩

theorem moves_needRoom {rel : World → World → Prop} [IsPreorder World rel] (levels : Nat) :
    Moves rel (needRoom levels) := by
  unfold needRoom
  refine .bind_get fun world => ?_
  split
  · exact .throw _
  · exact .pure _

theorem draws_interpolate (text : String) : Moves World.Draws (interpolate text) := by
  unfold interpolate
  exact .bind_get fun world => draws_ofChance _

/-! ## Writing -/

theorem writes_log (source message : String) : Moves World.Writes (log source message) :=
  fun world => ⟨world.files, [.logged source message], rfl, by simp [Event.isLogged]⟩

theorem writes_makeDirectory (path : Path) : Moves World.Writes (makeDirectory path) := by
  unfold makeDirectory
  refine (Moves.of_reads reads_locate).bind fun names world => ?_
  rw [on_bind, on_get]
  dsimp only
  rw [on_bind, on_lift]
  cases world.files.makeDirectory names with
  | error fault => exact Std.Refl.refl world
  | ok files => exact ⟨files, [], rfl, by simp⟩

theorem writes_writeText (path : Path) (text : String) :
    Moves World.Writes (writeText path text) := by
  unfold writeText
  refine (Moves.of_reads reads_locate).bind fun place world => ?_
  rw [on_bind, on_get]
  dsimp only
  rw [on_bind, on_lift]
  cases world.files.write place text.toUTF8 with
  | error fault => exact Std.Refl.refl world
  | ok files =>
    exact ⟨files, [.wrote (Path.normalize place) text.toUTF8], rfl, by simp [Event.isKept]⟩

theorem moves_orRefused {rel : World → World → Prop} [IsPreorder World rel] {action : Action α}
    (path : Path) (h : Moves rel action) : Moves rel (orRefused path action) := by
  unfold orRefused
  refine (h.map _).tryCatch fun fault => ?_
  split
  · exact .pure _
  · exact .throw fault

section Directories

variable {rel : World → World → Prop} [IsPreorder World rel]

/-- What making one directory leaves alone, making one that is missing does. -/
theorem moves_makeMissing (h : ∀ path, Moves rel (makeDirectory path)) (path : Path) :
    Moves rel (makeMissing path) := by
  unfold makeMissing
  refine (moves_orRefused path (h path)).bind fun made => ?_
  split
  · split
    · exact .pure _
    · refine (Moves.of_reads reads_isDirectory).bind fun found => ?_
      split <;> exact .pure _
  · exact .pure _

/-- What making one directory leaves alone, making directories does. -/
theorem moves_makeDirectories (h : ∀ path, Moves rel (makeDirectory path)) (path : Path)
    (steps : Nat) : Moves rel (makeDirectories path steps) := by
  induction steps generalizing path with
  | zero => exact moves_makeMissing h path
  | succ steps ih =>
    unfold makeDirectories
    refine (moves_makeMissing h path).bind fun made => ?_
    split
    · split
      · exact .pure _
      · refine (ih path.parent).bind fun parent => ?_
        split
        · exact moves_makeMissing h path
        · exact .pure _
    · exact .pure _

end Directories

end Action

open RequestScript.Action

theorem writes_writeEntries (path : Path) (entries : Table Value) :
    Moves World.Writes (writeEntries path entries) := by
  unfold writeEntries
  refine (moves_makeDirectories writes_makeDirectory _ _).bind fun made => ?_
  dsimp only
  split
  · refine (moves_needRoom _).bind fun _ => ?_
    refine (moves_orRefused path (writes_writeText path _)).bind fun written => ?_
    split
    · exact .pure _
    · exact writes_log _ _
  · refine (Moves.pure _).bind fun written => ?_
    split
    · exact .pure _
    · exact writes_log _ _

theorem Layer.writes_save (layer : Layer) : Moves World.Writes layer.save := by
  unfold Layer.save
  split
  · exact writes_writeEntries _ _
  · exact .pure _

/-! ## Keeping -/

namespace Store

theorem keeps_note {event : Event} (h : event.isLogged ∨ event.isKept) :
    Moves World.Keeps (note event) :=
  fun world => ⟨world.files, world.store, [event], rfl, by simpa using h⟩

theorem keeps_update (f : Store → Store) : Moves World.Keeps (update f) :=
  fun world => ⟨world.files, f world.store, [], rfl, by simp⟩

theorem keeps_set (scope : Scope) (name : String) (value : Datum) :
    Moves World.Keeps (set scope name value) := by
  unfold set replaceLayer
  refine (keeps_note (.inr rfl)).bind fun _ => .bind_get fun world => ?_
  exact (keeps_update _).bind fun _ => (Layer.writes_save _).mono World.Writes.keeps

theorem keeps_keep (name : String) (value : Datum) : Moves World.Keeps (keep name value) := by
  unfold keep
  refine .bind_get fun world => ?_
  split
  · exact .pure _
  · exact keeps_note (.inr rfl)
  · refine (Moves.lift _).bind fun changed => ?_
    split
    · exact (keeps_update _).bind fun _ => (writes_writeEntries _ _).mono World.Writes.keeps
    · exact .pure _

end Store

theorem Capture.keeps_keep (outcome : Outcome) (capture : Capture) :
    Moves World.Keeps (Capture.keep outcome capture) := by
  unfold Capture.keep
  refine (Moves.lift _).bind fun found => ?_
  split
  · exact (writes_log _ _).mono World.Writes.keeps
  · refine (Store.keeps_set _ _ _).bind fun _ => ?_
    split
    · exact Store.keeps_keep _ _
    · exact .pure _

end RequestScript
