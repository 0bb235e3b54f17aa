import RequestScript.Proofs.World.Overwriting

/-!
# Where paths lead

Paths lead to the same places for as long as a run takes, and for the next run as well. What an
action works out from where paths lead, it works out again (`Action.Locates`). An action that keeps
a table in a file changes nothing but the content of the file where there is one
(`World.Rewrites`), and then everything else can be read as before.
-/

namespace RequestScript

/-- Two worlds where paths lead to the same places, with the same room. -/
structure World.SamePlaces (world after : World) : Prop where
  directory_eq : after.directory = world.directory
  home_eq : after.home = world.home
  homes_eq : after.homes = world.homes
  room_eq : after.room = world.room

/-- From one world to another one with nothing but the content of a file rewritten, if the path of
the file leads to it. -/
structure World.Rewrites (path : Path) (place : List String) (world after : World) : Prop where
  samePlaces : world.SamePlaces after
  overwritten : world.HasFile path place → FileTree.Overwritten place world.files after.files

namespace World

variable {world after : World} {path : Path} {place : List String}

theorem SamePlaces.refl (world : World) : world.SamePlaces world :=
  ⟨rfl, rfl, rfl, rfl⟩

theorem SamePlaces.trans {last : World} (h : world.SamePlaces after)
    (hlast : after.SamePlaces last) : world.SamePlaces last where
  directory_eq := hlast.directory_eq.trans h.directory_eq
  home_eq := hlast.home_eq.trans h.home_eq
  homes_eq := hlast.homes_eq.trans h.homes_eq
  room_eq := hlast.room_eq.trans h.room_eq

theorem Keeps.samePlaces (h : Keeps world after) : world.SamePlaces after := by
  obtain ⟨_, _, _, rfl, _⟩ := h
  exact ⟨rfl, rfl, rfl, rfl⟩

theorem SamePlaces.locate_eq (h : world.SamePlaces after) (path : Path) :
    after.locate path = world.locate path := by
  unfold locate
  rw [h.directory_eq]

theorem SamePlaces.find_eq (h : world.SamePlaces after) (hfiles : after.files = world.files)
    (path : Path) : after.find path = world.find path := by
  rw [find, find, h.locate_eq, hfiles]

theorem HasFile.of_overwritten (h : world.HasFile path place) (hplaces : world.SamePlaces after)
    (hfiles : FileTree.Overwritten place world.files after.files) : after.HasFile path place := by
  refine ⟨?_, hfiles.after⟩
  rw [hfiles.walk_eq, hplaces.directory_eq]
  exact h.1

/-- Where the files are the same, nothing is rewritten. -/
theorem rewrites_of_files_eq (h : world.SamePlaces after) (hfiles : after.files = world.files) :
    Rewrites path place world after := by
  refine ⟨h, ?_⟩
  rintro ⟨-, content, hnode⟩
  rw [hfiles]
  exact .refl hnode

/-- The path of a file that is rewritten still leads to it. -/
theorem Rewrites.hasFile (h : Rewrites path place world after) (hfile : world.HasFile path place) :
    after.HasFile path place :=
  hfile.of_overwritten h.samePlaces (h.overwritten hfile)

instance : IsPreorder World (Rewrites path place) where
  refl world := rewrites_of_files_eq (.refl world) rfl
  trans _ _ _ h hlast :=
    ⟨h.samePlaces.trans hlast.samePlaces, fun hfile =>
      (h.overwritten hfile).trans (hlast.overwritten (h.hasFile hfile))⟩

theorem Rewrites.trans {last : World} (h : Rewrites path place world after)
    (hlast : Rewrites path place after last) : Rewrites path place world last :=
  IsTrans.trans _ _ _ h hlast

theorem Logs.rewrites (h : Logs world after) : Rewrites path place world after := by
  obtain ⟨_, rfl, _⟩ := h
  exact rewrites_of_files_eq ⟨rfl, rfl, rfl, rfl⟩ rfl

end World

/-! ## Working out paths -/

namespace Action

variable {α β : Type} {world after : World}

/-- An action that looks at nothing but where paths lead. -/
def Locates (action : Action α) : Prop :=
  ∀ world after : World, world.SamePlaces after →
    action.on after = ((action.on world).1, after)

namespace Locates

theorem pure (x : α) : Locates (Pure.pure x : Action α) := fun _ _ _ => rfl

theorem lift (result : Except Fault α) : Locates (liftM result : Action α) := fun _ _ _ => rfl

theorem throw (fault : Fault) : Locates (MonadExcept.throw fault : Action α) :=
  fun _ _ _ => rfl

theorem bind_get {next : World → Action α} (h : ∀ world, Locates (next world))
    (hsame : ∀ {world after}, World.SamePlaces world after → next after = next world) :
    Locates (getThe World >>= next) := by
  intro world after hplaces
  rw [on_bind, on_bind, on_get, on_get]
  dsimp only
  rw [hsame hplaces]
  exact h world world after hplaces

theorem bind {action : Action α} {next : α → Action β} (h : Locates action)
    (hnext : ∀ x, Locates (next x)) : Locates (action >>= next) := by
  intro world after hplaces
  rw [on_bind, on_bind, h world after hplaces, h world world (.refl world)]
  cases (action.on world).1 with
  | error fault => rfl
  | ok x => exact hnext x world after hplaces

/-- What was worked out before is worked out again. -/
theorem on_eq {action : Action α} (h : Locates action) {between : World} {x : α}
    (hon : action.on world = (.ok x, between)) :
    between = world ∧ ∀ after, world.SamePlaces after → action.on after = (.ok x, after) := by
  have hsame := congrArg Prod.snd (h world world (.refl world))
  rw [hon] at hsame
  refine ⟨hsame, fun after hplaces => ?_⟩
  rw [h world after hplaces, hon]

end Locates

theorem locates_resolve (path : Path) : Locates (resolve path) := by
  have hpath : Locates (do return path.resolve (← getThe World).directory) :=
    .bind_get (fun _ => .pure _) fun hplaces => by rw [hplaces.directory_eq]
  unfold resolve
  dsimp only
  split
  · exact (Locates.throw _).bind fun _ => hpath
  · exact hpath

end Action

open RequestScript.Action

/-! ## Reading what may have been rewritten -/

section Reading

variable {world after : World} {place : List String}

/-- Where a table could be read, one can be read after a file that holds a table is rewritten. -/
theorem readEntries_of_overwritten (hplaces : world.SamePlaces after)
    (hfiles : FileTree.Overwritten place world.files after.files) {content : ByteArray}
    (hplace : after.files.node? place = some (.file content)) {found : Except String (Table Value)}
    (hcontent : entriesWithin after.room content = .ok found) {path : Path}
    (h : ((readEntries path).on world).1.isOk = true) :
    ((readEntries path).on after).1.isOk = true := by
  rw [(on_readEntries path _).1] at h ⊢
  unfold World.find at h ⊢
  rw [hplaces.locate_eq, hplaces.room_eq]
  rw [hplaces.room_eq] at hcontent
  cases hnames : world.locate path with
  | error fault =>
    rw [hnames] at h
    exact h
  | ok names =>
    rw [hnames] at h
    simp only [bind, Except.bind] at h ⊢
    rcases hfiles.find_cases names with hsame | ⟨-, changed, hchanged, hfound⟩
    · rw [hsame]
      exact h
    · obtain rfl : content = changed := by
        rw [hplace] at hchanged
        exact FileNode.file.inj (Option.some.inj hchanged)
      rw [hfound]
      simp only [hcontent]
      rfl

/-- Where there is a directory, there still is one. -/
theorem isDirectory_of_overwritten (hplaces : world.SamePlaces after)
    (hfiles : FileTree.Overwritten place world.files after.files) (path : Path) :
    ((isDirectory path).on after).1 = ((isDirectory path).on world).1 := by
  rw [on_isDirectory, on_isDirectory]
  unfold World.find
  rw [hplaces.locate_eq]
  cases hnames : world.locate path with
  | error fault => rfl
  | ok names =>
    simp only [bind, Except.bind]
    rcases hfiles.find_cases names with hsame | ⟨⟨old, hold⟩, changed, -, hfound⟩
    · rw [hsame]
    · rw [hold, hfound]
      rfl

end Reading

/-! ## What rewrites a file -/

section Rewriting

variable {path : Path} {place : List String}

theorem rewrites_readEntries (other : Path) :
    Moves (World.Rewrites path place) (readEntries other) :=
  fun world => (on_readEntries other world).2.rewrites

theorem rewrites_writeEntries (entries : Table Value) :
    Moves (World.Rewrites path place) (writeEntries path entries) := fun world =>
  ⟨(writes_writeEntries path entries world).keeps.samePlaces, fun hfile =>
    overwritten_writeEntries hfile entries⟩

theorem Layer.rewrites_load (other : Path) :
    Moves (World.Rewrites path place) (Layer.load other) :=
  (rewrites_readEntries other).bind fun _ => .pure _

end Rewriting

end RequestScript
