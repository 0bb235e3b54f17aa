import RequestScript.Proofs.Variables.Layers
import RequestScript.Proofs.World.Moves

/-!
# Setting and keeping variables

Setting a variable sets its text in one layer of the store and changes nothing else in it. Keeping
it for later runs changes no layer. The collection layer is taken from a file as a whole.
-/

namespace RequestScript

/-- From one world to another one where every layer holds the same values. -/
def World.SameLayers (world after : World) : Prop :=
  world.store.SameLayers after.store

namespace World

variable {world after : World}

instance : IsPreorder World SameLayers where
  refl _ _ := rfl
  trans _ _ _ h hafter scope := (hafter scope).trans (h scope)

theorem Writes.store_eq (h : Writes world after) : after.store = world.store := by
  obtain ⟨_, _, rfl, _⟩ := h
  rfl

theorem Writes.sameLayers (h : Writes world after) : SameLayers world after := by
  intro scope
  rw [h.store_eq]

end World

namespace Store

theorem store_on_replaceLayer (scope : Scope) (layer : Layer) (world : World) :
    ((replaceLayer scope layer).on world).2.store = world.store.setLayer scope layer := by
  unfold replaceLayer update
  rw [Action.on_bind, Action.on_modify]
  exact (Layer.writes_save _ _).store_eq

theorem store_on_set (scope : Scope) (name : String) (value : Datum) (world : World) :
    ((set scope name value).on world).2.store = world.store.withText scope name value.text := by
  unfold set
  rw [Action.on_bind, Action.on_note]
  dsimp only
  rw [Action.on_bind, Action.on_get]
  exact store_on_replaceLayer _ _ _

/-- A variable is noted and set, and then its layer is saved. -/
theorem on_set_eq (scope : Scope) (name : String) (value : Datum) (world : World) :
    (set scope name value).on world =
      ((world.store.layer scope).set name (.string value.text)).save.on { world with
        store := world.store.withText scope name value.text
        events := .set scope name value.text :: world.events } := by
  unfold set replaceLayer update
  rw [Action.on_bind, Action.on_note]
  dsimp only
  rw [Action.on_bind, Action.on_get]
  dsimp only
  rw [Action.on_bind, Action.on_modify]
  rfl

/-- A layer without a file is not written when a variable is set. -/
theorem on_set {scope : Scope} {world : World} (hfile : (world.store.layer scope).file = none)
    (name : String) (value : Datum) :
    (set scope name value).on world = (.ok (), { world with
      store := world.store.withText scope name value.text
      events := .set scope name value.text :: world.events }) := by
  have hsave : ((world.store.layer scope).set name (.string value.text)).save = pure () := by
    simp only [Layer.save, Layer.set, hfile]
  rw [on_set_eq, hsave]
  rfl

/-- Keeping a value for later runs changes no layer. -/
theorem sameLayers_keep (name : String) (value : Datum) :
    Action.Moves World.SameLayers (keep name value) := by
  unfold keep
  refine .bind_get fun world => ?_
  split
  · exact .pure _
  · exact fun world _ => rfl
  · refine (Action.Moves.lift _).bind fun changed => ?_
    split
    · refine .bind (fun world scope => ?_) fun _ =>
        (writes_writeEntries _ _).mono World.Writes.sameLayers
      cases scope <;> rfl
    · exact .pure _

/-- The file that keeps the variables beside a script, which may be a directory. -/
def sideFile (path : Path) (directory : Bool) : Path :=
  (if directory then path else path.parent).child collectionFile

/-- The world after the collection layer has been taken from a file that holds a table. -/
def takenFrom (side : Path) (entries : Table Value) (world : World) : World :=
  { world with
    store := { world.store with collection := { entries, file := some side } }
    events := .logged variablesLog ("Collection variables loaded from " ++ side.text) ::
      world.events }

theorem on_loadCollection (path : Path) (world : World) :
    (loadCollection path).on world =
      match ((Action.isDirectory path).on world).1 with
      | .error fault => (.error fault, world)
      | .ok directory =>
        let side := sideFile path directory
        match (readEntries side).on world with
        | (.error fault, after) => (.error fault, after)
        | (.ok entries, after) => (.ok side, takenFrom side entries after) := by
  have hsame : (Action.isDirectory path).on world =
      (((Action.isDirectory path).on world).1, world) := Action.reads_isDirectory.on_eq world
  unfold loadCollection
  rw [Action.on_bind, hsame]
  cases ((Action.isDirectory path).on world).1 with
  | error fault => rfl
  | ok directory =>
    dsimp only [sideFile]
    rw [Action.on_bind, Layer.load, Action.on_bind]
    rcases (readEntries _).on world with ⟨_ | entries, after⟩ <;> rfl

/-- The collection layer is what has been read from the file. -/
theorem on_loadCollection_ok {path side : Path} {world after : World}
    (h : (loadCollection path).on world = (.ok side, after)) :
    ∃ entries between, (readEntries side).on world = (.ok entries, between) ∧
      after = takenFrom side entries between := by
  rw [on_loadCollection] at h
  split at h
  · cases h
  · next directory _ =>
    dsimp only at h
    rcases hread : (readEntries (sideFile path directory)).on world with ⟨_ | entries, between⟩ <;>
      rw [hread] at h <;> cases h
    exact ⟨entries, between, hread, rfl⟩

end Store

end RequestScript
