import RequestScript.Proofs.Variables.Kept
import RequestScript.Proofs.World.Places
import RequestScript.Settings

/-!
# What the next run finds

A run that is equipped a second time, after a variable has been kept for it, works out the same
paths, reads the same files but for the environment file, and makes no other set active. So it ends
as well as the first time, and its environment layer holds the kept text with the references in it
replaced, like those in every other text of the file.
-/

namespace RequestScript

open RequestScript.Action EnvironmentFile

namespace Settings

variable {settings : Settings} {values : Table String} {script : Option Path}
  {environment : Option String}

/-! ## Paths -/

theorem expandHome_of_samePlaces {world after : World} (h : world.SamePlaces after) (path : Path) :
    expandHome after path = expandHome world path := by
  unfold expandHome homeOf? World.homePath
  rw [h.home_eq, h.homes_eq]

theorem locates_getPath (settings : Settings) (name : String) (fallback : Path) :
    Locates (settings.getPath name fallback) := by
  unfold getPath
  refine .bind_get (fun world => (Locates.lift _).bind fun value => .lift _) fun hplaces => ?_
  unfold pathOf
  simp only [expandHome_of_samePlaces hplaces]

theorem locates_sharedPath (name : String) : Locates (sharedPath name) := by
  unfold sharedPath
  refine .bind_get (fun _ => .pure _) fun hplaces => ?_
  unfold World.homePath
  rw [hplaces.home_eq]

theorem locates_globalsPath (settings : Settings) : Locates settings.globalsPath := by
  unfold globalsPath
  exact (locates_sharedPath _).bind fun _ => locates_getPath settings _ _

theorem locates_environmentPath (settings : Settings) (script : Option Path) :
    Locates (settings.environmentPath script) := by
  unfold environmentPath besideScript
  refine Locates.bind ?_ fun _ => locates_getPath settings _ _
  cases script with
  | none => exact .pure _
  | some script => exact (locates_resolve script).bind fun _ => .pure _

/-! ## The active set -/

/-- No other set of the file is wanted. -/
def IsSettled (wanted : Yaml.Entry) (file : EnvironmentFile) : Prop :=
  ∀ name, wanted = .string name → name ≠ "" → name ∈ file.names → file.isActive name = true

theorem activate_of_isSettled {wanted : Yaml.Entry} {file : EnvironmentFile}
    (h : IsSettled wanted file) : activate wanted file = pure file := by
  unfold activate
  split
  · next name =>
    refine if_neg fun hwanted => ?_
    simp only [Bool.and_eq_true, Bool.not_eq_true', List.contains_iff_mem] at hwanted
    obtain ⟨⟨hname, hmem⟩, hinactive⟩ := hwanted
    have hactive := h name rfl (by simpa using hname) hmem
    rw [hactive] at hinactive
    cases hinactive
  · rfl

/-- What is wanted is settled, by what is written to the file if at all. -/
theorem activate_ok {wanted : Yaml.Entry} {file made : EnvironmentFile} {world after : World}
    (h : (activate wanted file).on world = (.ok made, after)) (hopened : file.IsOpened) :
    made.path = file.path ∧ made.IsOpened ∧ IsSettled wanted made ∧
      (file.content = [] → made = file) ∧
      ∀ place, World.Rewrites file.path place world after := by
  unfold activate at h
  split at h
  · next name =>
    split at h
    · next hwanted =>
      simp only [Bool.and_eq_true, Bool.not_eq_true', List.contains_iff_mem] at hwanted
      obtain ⟨⟨hname, hmem⟩, -⟩ := hwanted
      obtain ⟨_, last, hsave, hmade⟩ := on_bind_ok h
      cases hmade
      refine ⟨rfl, hopened.setActive (by simpa using hname), ?_, fun hcontent => ?_,
        fun place => ?_⟩
      · rintro other ⟨⟩ - -
        exact beq_self_eq_true _
      · rw [EnvironmentFile.names, hcontent] at hmem
        cases hmem
      · have hrewrites : World.Rewrites file.path place world
            ((file.setActive name).save.on world).2 := rewrites_writeEntries _ world
        rwa [hsave] at hrewrites
    · next hunwanted =>
      cases h
      refine ⟨rfl, hopened, ?_, fun _ => rfl, fun place => Std.Refl.refl world⟩
      rintro other ⟨⟩ hne hmem
      by_contra hinactive
      refine hunwanted ?_
      simp only [Bool.and_eq_true, Bool.not_eq_true', List.contains_iff_mem]
      exact ⟨⟨by simpa using hne, hmem⟩, by simpa using hinactive⟩
  · next hnone =>
    cases h
    refine ⟨rfl, hopened, ?_, fun _ => rfl, fun place => Std.Refl.refl world⟩
    rintro name rfl
    exact absurd rfl (hnone name)

/-! ## The layers -/

/-- From one world to another one with the same files, and the same place to keep variables. -/
structure SameFiles (world after : World) : Prop where
  samePlaces : world.SamePlaces after
  files_eq : after.files = world.files
  keeper_eq : after.store.keeper = world.store.keeper
  environment_file : after.store.environment.file = world.store.environment.file

theorem SameFiles.trans {world between after : World} (h : SameFiles world between)
    (hafter : SameFiles between after) : SameFiles world after where
  samePlaces := h.samePlaces.trans hafter.samePlaces
  files_eq := hafter.files_eq.trans h.files_eq
  keeper_eq := hafter.keeper_eq.trans h.keeper_eq
  environment_file := hafter.environment_file.trans h.environment_file

section Layers

variable {file : EnvironmentFile} {active : String} {fields entries : Table Value}
  {world after : World}

/-- The active set of a file becomes the environment layer. -/
theorem on_loadActive (hactive : file.HasActiveSet active fields)
    (hentries : Reference.expandTable values fields = .ok entries)
    (hfile : world.store.environment.file = none) :
    ∃ after, (loadActive values file).on world = (.ok (), after) ∧
      after.store.environment = { entries := (flatten entries).mapValues .string } ∧
      SameFiles world after := by
  have hgiven : file.active.isGiven = true := by
    simpa [hactive.active_eq, Value.isGiven] using hactive.name_ne
  unfold loadActive
  rw [if_pos hgiven, on_bind, on_lift, hactive.activeVariables_eq]
  dsimp only
  rw [on_bind, on_lift, hentries]
  exact ⟨_, Store.on_loadEnvironment hfile _ _, rfl, ⟨⟨rfl, rfl, rfl, rfl⟩, rfl, rfl, hfile.symm⟩⟩

/-- Loading the active set changes no files. -/
theorem sameFiles_loadActive (h : (loadActive values file).on world = (.ok (), after))
    (hfile : world.store.environment.file = none) : SameFiles world after := by
  unfold loadActive at h
  split at h
  · obtain ⟨found, _, hfound, hrest⟩ := on_bind_ok h
    obtain ⟨-, rfl⟩ := on_lift_ok hfound
    obtain ⟨entries, _, hentries, hload⟩ := on_bind_ok hrest
    obtain ⟨-, rfl⟩ := on_lift_ok hentries
    rw [Store.on_loadEnvironment hfile] at hload
    cases hload
    exact ⟨⟨rfl, rfl, rfl, rfl⟩, rfl, rfl, hfile.symm⟩
  · cases h
    exact ⟨.refl world, rfl, rfl, rfl⟩

/-- References can be replaced in an active set that has been loaded. -/
theorem exists_expandTable (hactive : file.HasActiveSet active fields)
    (h : (loadActive values file).on world = (.ok (), after)) :
    ∃ entries, Reference.expandTable values fields = .ok entries := by
  have hgiven : file.active.isGiven = true := by
    simpa [hactive.active_eq, Value.isGiven] using hactive.name_ne
  unfold loadActive at h
  rw [if_pos hgiven] at h
  obtain ⟨found, _, hfound, h⟩ := on_bind_ok h
  obtain ⟨hvariables, rfl⟩ := on_lift_ok hfound
  obtain rfl : fields = found :=
    Except.ok.inj (hactive.activeVariables_eq.symm.trans hvariables)
  obtain ⟨entries, _, hentries, -⟩ := on_bind_ok h
  exact ⟨entries, (on_lift_ok hentries).1⟩

/-- Loading the variables beside a script changes no files and no other layer. -/
theorem sameFiles_loadBeside (h : (loadBeside script).on world = (.ok (), after)) :
    SameFiles world after ∧ after.store.environment = world.store.environment := by
  cases script with
  | none =>
    cases h
    exact ⟨⟨.refl world, rfl, rfl, rfl⟩, rfl⟩
  | some path =>
    obtain ⟨side, _, hload, hdone⟩ := on_bind_ok h
    cases hdone
    obtain ⟨entries, between, hread, rfl⟩ := Store.on_loadCollection_ok hload
    obtain ⟨_, rfl, -⟩ := (logs_readEntries side).rel_of_on hread
    exact ⟨⟨⟨rfl, rfl, rfl, rfl⟩, rfl, rfl, rfl⟩, rfl⟩

/-- The variables beside a script can be loaded again after a file that holds a table is
rewritten. -/
theorem exists_loadBeside {place : List String} {content : ByteArray} {next : World}
    {found : Except String (Table Value)} (h : (loadBeside script).on world = (.ok (), after))
    (hplaces : world.SamePlaces next)
    (hfiles : FileTree.Overwritten place world.files next.files)
    (hplace : next.files.node? place = some (.file content))
    (hcontent : entriesWithin next.room content = .ok found) :
    ∃ last, (loadBeside script).on next = (.ok (), last) := by
  cases script with
  | none => exact ⟨next, rfl⟩
  | some path =>
    obtain ⟨side, _, hload, -⟩ := on_bind_ok h
    rw [Store.on_loadCollection] at hload
    unfold loadBeside
    rw [on_bind, Store.on_loadCollection, isDirectory_of_overwritten hplaces hfiles]
    split at hload
    · cases hload
    · next directory _ =>
      dsimp only at hload ⊢
      have hread : ((readEntries (Store.sideFile path directory)).on world).1.isOk = true := by
        rcases hread : (readEntries (Store.sideFile path directory)).on world with ⟨_ | _, _⟩ <;>
          rw [hread] at hload <;> cases hload
        rfl
      have hagain := readEntries_of_overwritten hplaces hfiles hplace hcontent hread
      rcases hnext : (readEntries (Store.sideFile path directory)).on next with
        ⟨_ | entries, last⟩ <;> rw [hnext] at hagain
      · cases hagain
      · exact ⟨_, rfl⟩

end Layers

/-! ## Opening the files again -/

/-- What is found at the path of a file is the file. -/
theorem node?_eq_of_find {path : Path} {place : List String} {world : World} {content : ByteArray}
    (h : world.HasFile path place) (hfind : world.find path = .ok (.file content)) :
    world.files.node? place = some (.file content) := by
  obtain ⟨names, hnames, hfound⟩ := bind_eq_ok_iff.mp hfind
  obtain ⟨final, hwalk, hnode⟩ := FileTree.find_eq_ok_iff.mp hfound
  rw [World.locate_eq_ok hnames, h.1] at hwalk
  rw [Except.ok.inj hwalk, hnode]

/-- The files of a run are open. -/
structure Opens (settings : Settings) (script : Option Path) (environment : Option String)
    (globals path : Path) (place : List String) (world : World) (file : EnvironmentFile)
    (after : World) : Prop where
  globals_eq : ∀ next, world.SamePlaces next → settings.globalsPath.on next = (.ok globals, next)
  path_eq : ∀ next, world.SamePlaces next →
    (settings.environmentPath script).on next = (.ok path, next)
  file_path : file.path = path
  isOpened : file.IsOpened
  isSettled : ∃ wanted, settings.wantedSet environment = .ok wanted ∧ IsSettled wanted file
  hasFile : world.HasFile path place
  /-- The file of the shared layer has been read. -/
  isOk_global : ∃ between, World.Rewrites path place world between ∧
    World.Rewrites path place between after ∧ ((readEntries globals).on between).1.isOk = true

/-- An environment file that something was read from is there, and is still there. -/
theorem hasFile_of_load {path : Path} {file : EnvironmentFile} {world loaded : World}
    (h : (EnvironmentFile.load path).on world = (.ok file, loaded)) (hcontent : file.content ≠ []) :
    ∃ place, world.HasFile path place ∧ World.Rewrites path place world loaded := by
  obtain ⟨entries, read, hread, hfile⟩ := on_bind_ok h
  cases hfile
  obtain ⟨bytes, hfind, -⟩ := exists_file_of_readEntries hread hcontent
  obtain ⟨place, hplace⟩ := World.hasFile_of_find hfind
  have hmoves : World.Rewrites path place world ((readEntries path).on world).2 :=
    rewrites_readEntries path world
  rw [hread] at hmoves
  exact ⟨place, hplace, hmoves⟩

/-- What opening the files of a run takes, where the environment file has an active set. -/
theorem openFiles_ok {global : Layer} {file : EnvironmentFile} {active : String}
    {fields : Table Value} {world after : World}
    (h : (settings.openFiles script environment).on world = (.ok (global, file), after))
    (hactive : file.HasActiveSet active fields) :
    ∃ globals path place, Opens settings script environment globals path place world file after ∧
      World.Rewrites path place world after := by
  unfold openFiles at h
  obtain ⟨globals, start, hglobalsOn, hopenPath⟩ := on_bind_ok h
  obtain ⟨hstart, hglobals⟩ := (locates_globalsPath settings).on_eq hglobalsOn
  obtain rfl : world = start := hstart.symm
  obtain ⟨path, same, hpathOn, hopenFile⟩ := on_bind_ok hopenPath
  obtain ⟨hsameWorld, hpath⟩ := (locates_environmentPath settings script).on_eq hpathOn
  obtain rfl : world = same := hsameWorld.symm
  obtain ⟨first, loaded, hload, hopenGlobal⟩ := on_bind_ok hopenFile
  obtain ⟨layer, between, hlayer, hopenSet⟩ := on_bind_ok hopenGlobal
  obtain ⟨wanted, lifted, hwantedOn, hactivateRest⟩ := on_bind_ok hopenSet
  obtain ⟨hwanted, hlifted⟩ := on_lift_ok hwantedOn
  subst hlifted
  obtain ⟨made, last, hactivate, hdone⟩ := on_bind_ok hactivateRest
  cases hdone
  obtain ⟨hfirstPath, hopened⟩ := isOpened_load hload
  obtain ⟨hsame, hmade, hsettled, hempty, hrewrites⟩ := activate_ok hactivate hopened
  -- A file that is missing has no active set.
  have hcontent : first.content ≠ [] := by
    intro hnil
    have hnone := hactive.get?_name
    rw [hempty hnil, hnil] at hnone
    cases hnone
  obtain ⟨place, hfile, hloaded⟩ := hasFile_of_load hload hcontent
  have hbetween : World.Rewrites path place loaded between := by
    have hmoves : World.Rewrites path place loaded ((Layer.load globals).on loaded).2 :=
      Layer.rewrites_load globals loaded
    rwa [hlayer] at hmoves
  have hlast : World.Rewrites path place between after := hfirstPath ▸ hrewrites place
  have hglobal : ((readEntries globals).on loaded).1.isOk = true := by
    obtain ⟨found, _, hfound, -⟩ := on_bind_ok hlayer
    rw [hfound]
    rfl
  have hafter : World.Rewrites path place loaded after := hbetween.trans hlast
  exact ⟨globals, path, place, ⟨hglobals, hpath, hsame.trans hfirstPath, hmade,
    ⟨wanted, hwanted, hsettled⟩, hfile, loaded, hloaded, hafter, hglobal⟩,
    hloaded.trans hafter⟩

/-- The files of a run are open again, with what has been changed in the active set. -/
theorem Opens.on_openFiles {globals path : Path} {place : List String} {world after next : World}
    {file changed : EnvironmentFile} {content : ByteArray}
    (h : Opens settings script environment globals path place world file after)
    (hafter : World.Rewrites path place after next)
    (hrewrites : World.Rewrites path place world next)
    (hfind : next.find path = .ok (.file content))
    (hcontent : entriesWithin next.room content = .ok (.ok changed.content))
    (hchanged : ofContent path changed.content = changed)
    (hnames : changed.names = file.names) (hactive : changed.active = file.active) :
    ∃ global last, (settings.openFiles script environment).on next =
      (.ok (global, changed), last) ∧ next.Logs last := by
  obtain ⟨wanted, hwanted, hsettled⟩ := h.isSettled
  have hunwanted : IsSettled wanted changed := by
    intro name hname hne hmem
    have hsame := hsettled name hname hne (hnames ▸ hmem)
    unfold isActive at hsame ⊢
    rwa [hactive]
  have hplace : next.files.node? place = some (.file content) :=
    node?_eq_of_find (hrewrites.hasFile h.hasFile) hfind
  obtain ⟨between, hstart, hrest, hglobal⟩ := h.isOk_global
  have hbetween : between.HasFile path place := hstart.hasFile h.hasFile
  have hnext : World.Rewrites path place between next := hrest.trans hafter
  have hread := readEntries_of_overwritten hnext.samePlaces (hnext.overwritten hbetween) hplace
    hcontent hglobal
  have hlogs := (on_readEntries globals next).2
  rcases hentries : (readEntries globals).on next with ⟨_ | entries, last⟩ <;>
    rw [hentries] at hread hlogs
  · cases hread
  have hlayer : (Layer.load globals).on next = (.ok { entries, file := some globals }, last) := by
    unfold Layer.load
    rw [on_bind, hentries]
    rfl
  refine ⟨{ entries, file := some globals }, last, ?_, hlogs⟩
  unfold openFiles
  rw [on_bind_of_ok (h.globals_eq next hrewrites.samePlaces),
    on_bind_of_ok (h.path_eq next hrewrites.samePlaces),
    on_bind_of_ok (on_load_of_file hfind hcontent), hchanged, on_bind_of_ok hlayer]
  rw [on_bind, on_lift, hwanted]
  dsimp only
  rw [activate_of_isSettled hunwanted]
  rfl

/-- A kept variable is written to the environment file. -/
theorem rewrites_of_keep {file : EnvironmentFile} {active name text : String}
    {fields : Table Value} {world saved : World} (hactive : file.HasActiveSet active fields)
    (hkeeper : world.store.keeper = .file file)
    (hkeep : (Store.keep name (.ofString text)).on world = (.ok (), saved)) (place : List String) :
    World.Rewrites file.path place world saved := by
  let changed := file.withSet active (setNested fields (.string text) (partsOfName name))
  let put : World := { world with store := { world.store with keeper := .file changed } }
  have hput : World.Rewrites file.path place world put :=
    World.rewrites_of_files_eq ⟨rfl, rfl, rfl, rfl⟩ rfl
  have hsave : World.Rewrites file.path place put (changed.save.on put).2 :=
    rewrites_writeEntries changed.content put
  rw [Store.on_keep_file hactive hkeeper] at hkeep
  rw [hkeep] at hsave
  exact hput.trans hsave

/-- Setting a variable of the environment changes no files. -/
theorem sameFiles_set {world after : World} (hfile : world.store.environment.file = none)
    {name : String} {value : Datum} (h : (Store.set .env name value).on world = (.ok (), after)) :
    SameFiles world after := by
  have hlayer : (world.store.layer .env).file = none := hfile
  rw [Store.on_set hlayer] at h
  cases h
  exact ⟨⟨rfl, rfl, rfl, rfl⟩, rfl, rfl, rfl⟩

theorem SameFiles.rewrites {world after : World} (h : SameFiles world after) {path : Path}
    {place : List String} : World.Rewrites path place world after :=
  World.rewrites_of_files_eq h.samePlaces h.files_eq

/-- What equipping a run takes. -/
theorem equip_ok {world equipped : World}
    (h : (settings.equip values script environment).on world = (.ok (), equipped)) :
    ∃ global file opened fresh loaded,
      (settings.openFiles script environment).on world = (.ok (global, file), opened) ∧
      SameFiles { opened with store := { global, keeper := .file file } } fresh ∧
      fresh.store.environment.file = none ∧
      (loadActive values file).on fresh = (.ok (), loaded) ∧ SameFiles fresh loaded ∧
      (loadBeside script).on loaded = (.ok (), equipped) ∧ SameFiles loaded equipped := by
  obtain ⟨⟨global, file⟩, opened, hopen, hrest⟩ := on_bind_ok h
  obtain ⟨_, fresh, hfresh, hlayers⟩ := on_bind_ok hrest
  obtain ⟨_, loaded, hactive, hbeside⟩ := on_bind_ok hlayers
  have hnone : fresh.store.environment.file = none := by
    cases hfresh
    rfl
  have hsame : SameFiles { opened with store := { global, keeper := .file file } } fresh := by
    cases hfresh
    exact ⟨⟨rfl, rfl, rfl, rfl⟩, rfl, rfl, rfl⟩
  exact ⟨global, file, opened, fresh, loaded, hopen, hsame, hnone, hactive,
    sameFiles_loadActive hactive hnone, hbeside, (sameFiles_loadBeside hbeside).1⟩

/-- A run is equipped again after the environment file has been rewritten, with the variables of the
set that is active in the file. -/
theorem Opens.exists_equip {globals path : Path} {place : List String}
    {world opened loaded equipped next : World} {file changed : EnvironmentFile} {active : String}
    {fields entries : Table Value} {content : ByteArray}
    (h : Opens settings script environment globals path place world file opened)
    (hfirst : World.Rewrites path place world opened)
    (hloaded : World.Rewrites path place opened loaded)
    (hbeside : (loadBeside script).on loaded = (.ok (), equipped))
    (hnext : World.Rewrites path place loaded next)
    (hfind : next.find path = .ok (.file content))
    (hcontent : entriesWithin next.room content = .ok (.ok changed.content))
    (hchanged : ofContent path changed.content = changed)
    (hnames : changed.names = file.names) (hsame : changed.active = file.active)
    (hactive : changed.HasActiveSet active fields)
    (hentries : Reference.expandTable values fields = .ok entries) :
    ∃ again, (settings.equip values script environment).on next = (.ok (), again) ∧
      again.store.environment = { entries := (flatten entries).mapValues .string } := by
  have hafter : World.Rewrites path place opened next := hloaded.trans hnext
  obtain ⟨global, last, hopen, hlogs⟩ :=
    h.on_openFiles hafter (hfirst.trans hafter) hfind hcontent hchanged hnames hsame
  -- The files stay as they are while the layers are loaded.
  let fresh : World := { last with store := { global, keeper := .file changed } }
  have hupdate : (Store.update fun _ => { global, keeper := .file changed }).on last =
      (.ok (), fresh) := rfl
  obtain ⟨layered, hload, hlayer, hlayered⟩ :
      ∃ after, (loadActive values changed).on fresh = (.ok (), after) ∧ _ :=
    on_loadActive hactive hentries rfl
  have hfiles : layered.files = next.files := by
    obtain ⟨_, rfl, -⟩ := hlogs
    exact hlayered.files_eq
  have hplaces : next.SamePlaces layered := by
    have hlast : World.Rewrites path place next last := hlogs.rewrites
    have hfresh : last.SamePlaces fresh := ⟨rfl, rfl, rfl, rfl⟩
    exact hlast.samePlaces.trans (hfresh.trans hlayered.samePlaces)
  have hall : World.Rewrites path place loaded layered :=
    hnext.trans (World.rewrites_of_files_eq hplaces hfiles)
  have hfile : loaded.HasFile path place := hloaded.hasFile (hfirst.hasFile h.hasFile)
  have hfindLayered : layered.find path = .ok (.file content) := by
    rw [hplaces.find_eq hfiles, hfind]
  obtain ⟨again, hagain⟩ := exists_loadBeside hbeside hall.samePlaces (hall.overwritten hfile)
    (node?_eq_of_find (hall.hasFile hfile) hfindLayered) (hplaces.room_eq ▸ hcontent)
  refine ⟨again, ?_, ?_⟩
  · unfold equip
    rw [on_bind_of_ok hopen, on_bind_of_ok hupdate, on_bind_of_ok hload, hagain]
  · rw [(sameFiles_loadBeside hagain).2, hlayer]

/-- A run that is equipped after a variable without dots has been kept finds the text of the
variable with its references replaced. -/
theorem exists_equip_again {file : EnvironmentFile} {active name text : String}
    {fields : Table Value} {world equipped between saved next : World}
    (hequip : (settings.equip values script environment).on world = (.ok (), equipped))
    (hkeeper : equipped.store.keeper = .file file) (hactive : file.HasActiveSet active fields)
    (hname : '.' ∉ name.toList)
    (hset : (Store.set .env name (.ofString text)).on equipped = (.ok (), between))
    (hkeep : (Store.keep name (.ofString text)).on between = (.ok (), saved))
    (hwrote : between.Wrote saved) (hplaces : saved.SamePlaces next)
    (hfiles : next.files = saved.files) :
    ∃ again, (settings.equip values script environment).on next = (.ok (), again) ∧
      again.store.held? .env name = some (.string (Reference.expandText values text)) := by
  obtain ⟨global, opened, afterFiles, fresh, loaded, hopen, hfresh, hnone, hloadActive, hloaded,
    hloadBeside, hequipped⟩ := equip_ok hequip
  obtain rfl : file = opened := by
    rw [hequipped.keeper_eq, hloaded.keeper_eq, hfresh.keeper_eq] at hkeeper
    exact (Keeper.file.inj hkeeper).symm
  obtain ⟨globals, path, place, hopens, hfirst⟩ := openFiles_ok hopen hactive
  obtain rfl : file.path = path := hopens.file_path
  obtain ⟨entries, hentries⟩ := exists_expandTable hactive hloadActive
  let kept := setNested fields (.string text) (partsOfName name)
  have hkeptActive : (file.withSet active kept).HasActiveSet active kept := hactive.withSet kept
  have hexpand : Reference.expandTable values kept = .ok (Reference.expandFields values kept) := by
    have hset : kept = Table.set fields name (.string text) := by
      simp only [kept, partsOfName_of_not_mem hname, setNested]
    rw [hset]
    exact Reference.expandTable_set values hentries name text
  -- From the files that were opened to those of the next run, the environment file is rewritten.
  have hbetween : SameFiles loaded between := by
    have hfile : equipped.store.environment.file = none := by
      rw [hequipped.environment_file, hloaded.environment_file, hnone]
    exact hequipped.trans (sameFiles_set hfile hset)
  have hlayers : SameFiles { afterFiles with store := { global, keeper := .file file } } loaded :=
    hfresh.trans hloaded
  have hkeeperSet : between.store.keeper = .file file :=
    hbetween.keeper_eq.trans hlayers.keeper_eq
  have hopened : World.Rewrites file.path place afterFiles loaded :=
    World.rewrites_of_files_eq ⟨hlayers.samePlaces.directory_eq, hlayers.samePlaces.home_eq,
      hlayers.samePlaces.homes_eq, hlayers.samePlaces.room_eq⟩ hlayers.files_eq
  have hnext : World.Rewrites file.path place loaded next :=
    hbetween.rewrites.trans ((rewrites_of_keep hactive hkeeperSet hkeep place).trans
      (World.rewrites_of_files_eq hplaces hfiles))
  obtain ⟨content, hfind, hcontent, hchanged⟩ :=
    find_of_keep hopens.isOpened hactive hkeeperSet hkeep hwrote
  rw [← hplaces.find_eq hfiles] at hfind
  rw [← hplaces.room_eq] at hcontent
  obtain ⟨again, hagain, hlayer⟩ := hopens.exists_equip hfirst hopened hloadBeside hnext hfind
    hcontent hchanged (namesOf_set hactive.get?_name _) rfl hkeptActive hexpand
  have hnames : (Table.names (Reference.expandFields values fields)).Nodup := by
    rw [Reference.names_expandFields]
    exact (hopens.isOpened.isReadable_set hactive).here
  have hheld : again.store.held? .env name =
      Table.get? again.store.environment.entries name := rfl
  refine ⟨again, hagain, ?_⟩
  rw [hheld, hlayer]
  dsimp only
  rw [Table.get?_mapValues, Reference.expandFields_setNested, get?_flatten_setNested,
    leafBehind?_of_not_mem hnames hname]
  rfl

/-- **What the next run finds of a variable that is kept**: under its name without dots the
environment layer holds the text of the variable, with the references in it to variables of the
process replaced. So it holds the text itself where no reference in it is to a variable that is
set. -/
theorem held?_equipped_again {file : EnvironmentFile} {active name text : String}
    {fields : Table Value} {world equipped between saved next : World}
    (hequip : (settings.equip values script environment).on world = (.ok (), equipped))
    (hkeeper : equipped.store.keeper = .file file) (hactive : file.HasActiveSet active fields)
    (hname : '.' ∉ name.toList)
    (hset : (Store.set .env name (.ofString text)).on equipped = (.ok (), between))
    (hkeep : (Store.keep name (.ofString text)).on between = (.ok (), saved))
    (hwrote : between.Wrote saved) (hplaces : saved.SamePlaces next)
    (hfiles : next.files = saved.files) :
    ∃ again, (settings.equip values script environment).on next = (.ok (), again) ∧
      again.store.held? .env name = some (.string (Reference.expandText values text)) ∧
      (Reference.IsUnbound values text → again.store.held? .env name = some (.string text)) := by
  obtain ⟨again, hagain, hheld⟩ := exists_equip_again hequip hkeeper hactive hname hset hkeep
    hwrote hplaces hfiles
  refine ⟨again, hagain, hheld, fun hunbound => ?_⟩
  rw [hheld, Reference.expandText_of_isUnbound values hunbound]

/-! ## A world with one set -/

/-- A run without settings and script is equipped with the one set of a file. -/
theorem equip_holding (values : Table String) {fields entries : Table Value}
    (hfields : (Value.object fields).IsReadableWithin (Depth.limit - 1))
    (hentries : Reference.expandTable values fields = .ok entries) :
    ∃ equipped, (equip {} values none none).on (World.holding [("dev", .object fields)]) =
        (.ok (), equipped) ∧
      SameFiles { World.holding [("dev", .object fields)] with
        store := { keeper := .file (withOneSet fields) } } equipped := by
  let world := World.holding [("dev", .object fields)]
  have hglobals : (globalsPath {}).on world = (.ok ⟨"/", [".rext", "globals.json"]⟩, world) := rfl
  have hpath : (environmentPath {} none).on world = (.ok ⟨"", ["rext.env.json"]⟩, world) := rfl
  have hload : (EnvironmentFile.load ⟨"", ["rext.env.json"]⟩).on world =
      (.ok (withOneSet fields), world) := load_withOneSet {} hfields
  have hglobal : (Layer.load ⟨"/", [".rext", "globals.json"]⟩).on world =
      (.ok { entries := [], file := some ⟨"/", [".rext", "globals.json"]⟩ }, world) := by
    have hnames : world.locate ⟨"/", [".rext", "globals.json"]⟩ =
        .ok [".rext", "globals.json"] :=
      World.locate_of_text (by decide +kernel) (by decide +kernel)
    have hmissing : world.find ⟨"/", [".rext", "globals.json"]⟩ = .error .noSuchFile := by
      rw [World.find, hnames]
      rfl
    unfold Layer.load readEntries
    rw [on_bind, on_bind, on_pathExists, hmissing]
    rfl
  have hopen : (openFiles {} none none).on world =
      (.ok ({ entries := [], file := some ⟨"/", [".rext", "globals.json"]⟩ }, withOneSet fields),
        world) := by
    unfold openFiles
    rw [on_bind_of_ok hglobals, on_bind_of_ok hpath, on_bind_of_ok hload]
    rw [on_bind, hglobal]
    rfl
  let fresh : World := { world with store :=
    { global := { entries := [], file := some ⟨"/", [".rext", "globals.json"]⟩ }
      keeper := .file (withOneSet fields) } }
  obtain ⟨equipped, hloaded, -, hsame⟩ :
      ∃ after, (loadActive values (withOneSet fields)).on fresh = (.ok (), after) ∧ _ :=
    on_loadActive (hasActiveSet_withOneSet fields) hentries rfl
  have hfresh : SameFiles { world with store := { keeper := .file (withOneSet fields) } } fresh :=
    ⟨⟨rfl, rfl, rfl, rfl⟩, rfl, rfl, rfl⟩
  have hupdate : (Store.update fun _ =>
      { global := { entries := [], file := some ⟨"/", [".rext", "globals.json"]⟩ }
        keeper := .file (withOneSet fields) }).on world = (.ok (), fresh) := rfl
  refine ⟨equipped, ?_, hfresh.trans hsame⟩
  unfold equip
  rw [on_bind_of_ok hopen, on_bind_of_ok hupdate, on_bind_of_ok hloaded]
  rfl

/-- A variable is kept for the next run in a file with an empty set. -/
theorem exists_kept (values : Table String) (text : String)
    (hroom : (Value.object ((withOneSet []).withSet "dev"
      (setNested [] (.string text) (partsOfName "t"))).content).depth ≤ Depth.limit) :
    ∃ equipped between saved,
      (equip {} values none none).on (World.holding [("dev", .object [])]) = (.ok (), equipped) ∧
      equipped.store.keeper = .file (withOneSet []) ∧
      (Store.set .env "t" (.ofString text)).on equipped = (.ok (), between) ∧
      (Store.keep "t" (.ofString text)).on between = (.ok (), saved) ∧ between.Wrote saved := by
  have hfields : (Value.object []).IsReadableWithin (Depth.limit - 1) :=
    ⟨.intro List.nodup_nil nofun, by decide +kernel⟩
  obtain ⟨equipped, hequip, hsame⟩ := equip_holding values hfields rfl
  have hkeeper : equipped.store.keeper = .file (withOneSet []) := hsame.keeper_eq
  have hlayer : (equipped.store.layer .env).file = none := hsame.environment_file
  have hset := Store.on_set hlayer "t" (.ofString text)
  have hbetween := sameFiles_set hsame.environment_file hset
  have hfind := (hbetween.samePlaces.find_eq hbetween.files_eq (withOneSet []).path).trans
    (hsame.samePlaces.find_eq hsame.files_eq _)
  have hplace := hfind.trans (World.find_holding _ _)
  obtain ⟨saved, hkeep, hwrote⟩ := Store.exists_on_keep (hasActiveSet_withOneSet [])
    (hbetween.keeper_eq.trans hkeeper) hplace (by decide) "t" text
    (by rw [hbetween.samePlaces.room_eq, hsame.samePlaces.room_eq]; exact hroom)
  exact ⟨equipped, _, saved, hequip, hkeeper, hset, hkeep, hwrote⟩

theorem held?_equipped_again_plain :
    ∃ saved again, (equip {} [("HOME", "/home")] none none).on saved = (.ok (), again) ∧
      again.store.held? .env "t" = some (.string "secret") := by
  obtain ⟨equipped, between, saved, hequip, hkeeper, hset, hkeep, hwrote⟩ :=
    exists_kept [("HOME", "/home")] "secret" (by decide +kernel)
  obtain ⟨again, hagain, -, hheld⟩ := held?_equipped_again hequip hkeeper
    (hasActiveSet_withOneSet []) (by decide) hset hkeep hwrote (.refl saved) rfl
  exact ⟨saved, again, hagain,
    hheld (Reference.isUnbound_of_not_mem _ (by decide))⟩

/-- A text that looks like a reference comes back as the value of a variable of the process. -/
theorem held?_equipped_again_reference :
    ∃ equipped between saved again,
      (equip {} [("HOME", "/home")] none none).on (World.holding [("dev", .object [])]) =
        (.ok (), equipped) ∧
      equipped.store.keeper = .file (withOneSet []) ∧
      (Store.set .env "t" (.ofString "$HOME")).on equipped = (.ok (), between) ∧
      (Store.keep "t" (.ofString "$HOME")).on between = (.ok (), saved) ∧ between.Wrote saved ∧
      (equip {} [("HOME", "/home")] none none).on saved = (.ok (), again) ∧
      again.store.held? .env "t" ≠ some (.string "$HOME") := by
  obtain ⟨equipped, between, saved, hequip, hkeeper, hset, hkeep, hwrote⟩ :=
    exists_kept [("HOME", "/home")] "$HOME" (by decide +kernel)
  obtain ⟨again, hagain, hheld⟩ := exists_equip_again hequip hkeeper
    (hasActiveSet_withOneSet []) (by decide) hset hkeep hwrote (.refl saved) rfl
  have htext : Reference.expandText [("HOME", "/home")] "$HOME" = "/home" := by decide +kernel
  refine ⟨equipped, between, saved, again, hequip, hkeeper, hset, hkeep, hwrote, hagain, ?_⟩
  rw [hheld, htext]
  simp

end Settings

end RequestScript
