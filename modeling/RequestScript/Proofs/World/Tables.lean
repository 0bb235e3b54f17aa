import RequestScript.Proofs.World.Places

/-!
# Tables at places

The file at a place holds a table, or counts as one that holds an empty table. Writing a table to a
file changes the table of that place and of no other one, whichever directories are made for it.
Reading a table gives the one of the place, and changes none.
-/

namespace RequestScript

open RequestScript.Action

/-- Names lead to where they are normalized to, if they lead anywhere. -/
theorem FileTree.eq_normalize_of_walk {tree : FileTree} {names final : List String}
    (h : tree.walk [] names = .ok final) : final = Path.normalize names := by
  have hwalk {names place : List String} (h : tree.walk place names = .ok final) :
      final = names.foldl
        (fun done part => if part = ".." then done.dropLast else done ++ [part]) place := by
    induction names generalizing place with
    | nil => exact (Except.ok.inj h).symm
    | cons name rest ih =>
      obtain ⟨-, -, hrest⟩ := walk_cons_eq_ok h
      exact ih hrest
  exact hwalk h

namespace World

/-- The table that the file at a place holds. It is empty where there is no file, and where there
is one that holds no table. -/
def tableAt (world : World) (place : List String) : Table Value :=
  match world.files.node? place with
  | some (.file bytes) =>
    match entriesWithin world.room bytes with
    | .ok (.ok entries) => entries
    | _ => []
  | _ => []

/-- The place of the file that a path leads to, if it leads to one. -/
def fileAt? (world : World) (path : Path) : Option (List String) :=
  match world.find path with
  | .ok (.file _) => some (Path.normalize (path.locate world.directory))
  | _ => none

/-- The place of the file whose writing is the last thing that has been noted, if it is. -/
def justWrote? (world : World) : Option (List String) :=
  match world.events with
  | .wrote place _ :: _ => some place
  | _ => none

/-- From one world to another one with the same tables at all places. -/
def SameTables (world after : World) : Prop :=
  after.tableAt = world.tableAt

variable {world after : World} {path : Path} {place : List String}

instance : IsPreorder World SameTables where
  refl _ := rfl
  trans _ _ _ h hafter := hafter.trans h

theorem sameTables_of_files_eq (hfiles : after.files = world.files)
    (hroom : after.room = world.room) : SameTables world after := by
  funext place
  rw [tableAt, tableAt, hfiles, hroom]

theorem Logs.sameTables (h : Logs world after) : SameTables world after := by
  obtain ⟨_, rfl, _⟩ := h
  exact sameTables_of_files_eq rfl rfl

theorem SamePlaces.fileAt?_eq (h : world.SamePlaces after) (hfiles : after.files = world.files)
    (path : Path) : after.fileAt? path = world.fileAt? path := by
  rw [fileAt?, fileAt?, h.find_eq hfiles, h.directory_eq]

theorem tableAt_of_file {content : ByteArray} {entries : Table Value}
    (hnode : world.files.node? place = some (.file content))
    (hcontent : entriesWithin world.room content = .ok (.ok entries)) :
    world.tableAt place = entries := by
  rw [tableAt, hnode]
  dsimp only
  rw [hcontent]

/-- Where a directory or nothing stands, there is no table. -/
theorem tableAt_of_no_file {node : Option FileNode} (hnode : world.files.node? place = node)
    (h : ∀ content, node ≠ some (.file content)) : world.tableAt place = [] := by
  rw [tableAt, hnode]
  split
  · exact absurd rfl (h _)
  · rfl

theorem exists_events_of_justWrote? (h : world.justWrote? = some place) :
    ∃ content events, world.events = .wrote place content :: events := by
  unfold justWrote? at h
  split at h
  · next hevents =>
    obtain rfl := Option.some.inj h
    exact ⟨_, _, hevents⟩
  · cases h

theorem Wrote.exists_justWrote? (h : world.Wrote after) :
    ∃ place, after.justWrote? = some place := by
  obtain ⟨place, content, hevents⟩ := h
  exact ⟨place, by rw [justWrote?, hevents]⟩

end World

variable {world after : World} {path : Path} {place : List String} {entries : Table Value}

/-- A directory is made where nothing stands. -/
theorem sameTables_makeDirectory (path : Path) : Moves World.SameTables (makeDirectory path) := by
  intro world
  rw [on_makeDirectory]
  cases world.locate path with
  | error fault => exact Std.Refl.refl world
  | ok names =>
    dsimp only
    cases hfiles : world.files.makeDirectory names with
    | error fault => exact Std.Refl.refl world
    | ok files =>
      obtain ⟨final, -, hput⟩ := bind_eq_ok_iff.mp hfiles
      split at hput
      · cases hput
      next hnone =>
      obtain rfl := Except.ok.inj hput
      have hne : final ≠ [] := by
        rintro rfl
        cases hnone
      funext place
      dsimp only
      by_cases hplace : place = final
      · subst hplace
        have hmade : (world.files.put place .directory).node? place = some .directory :=
          (FileTree.node?_put _ hne _ _).trans (if_pos rfl)
        rw [World.tableAt_of_no_file hmade (by simp), World.tableAt_of_no_file hnone nofun]
      · rw [World.tableAt, World.tableAt, FileTree.node?_put _ hne, if_neg hplace]

/-- **Writing a table changes the one at its place**, and no other one. -/
theorem tableAt_of_writeEntries (hentries : (Value.object entries).IsReadable)
    (h : (writeEntries path entries).on world = (.ok (), after))
    (hwrote : after.justWrote? = some place) (elsewhere : List String) :
    after.tableAt elsewhere = if elsewhere = place then entries else world.tableAt elsewhere := by
  obtain ⟨content, events, hevents⟩ := World.exists_events_of_justWrote? hwrote
  obtain ⟨between, names, files, hmade, hdepth, -, hfiles, rfl⟩ := exists_write_of_events h hevents
  -- Until the file is written nothing but directories is made.
  have hsame : between.tableAt = world.tableAt :=
    (moves_makeDirectories sameTables_makeDirectory _ _).rel_of_on hmade
  obtain ⟨final, hwalk, hne, -, rfl⟩ := FileTree.write_eq_ok hfiles
  obtain rfl : Path.normalize names = place := Option.some.inj hwrote
  obtain rfl := FileTree.eq_normalize_of_walk hwalk
  split
  · next hplace =>
    refine World.tableAt_of_file ?_ (entriesWithin_pretty ⟨hentries, hdepth⟩)
    rw [hplace]
    exact (FileTree.node?_put _ hne _ _).trans (if_pos rfl)
  · next hplace =>
    rw [← hsame, World.tableAt, World.tableAt]
    dsimp only
    rw [FileTree.node?_put _ hne, if_neg hplace]

/-- A path leads to the file that has just been written at it. -/
theorem fileAt?_of_writeEntries (h : (writeEntries path entries).on world = (.ok (), after))
    (hwrote : after.justWrote? = some place) : after.fileAt? path = some place := by
  obtain ⟨content, events, hevents⟩ := World.exists_events_of_justWrote? hwrote
  obtain ⟨between, names, files, -, -, hnames, hfiles, rfl⟩ := exists_write_of_events h hevents
  have hfind : World.find { between with
      files, events := .wrote (Path.normalize names) (Value.object entries).pretty.toUTF8 ::
        between.events } path = .ok (.file (Value.object entries).pretty.toUTF8) :=
    bind_eq_ok_iff.mpr ⟨names, hnames, FileTree.find_of_write hfiles⟩
  rw [World.fileAt?, hfind]
  dsimp only
  rw [← World.locate_eq_ok hnames]
  exact hwrote

/-- **Reading a table gives the one at the place that the path leads to**, and none changes. -/
theorem eq_tableAt_of_readEntries (h : (readEntries path).on world = (.ok entries, after)) :
    entries = ((world.fileAt? path).map world.tableAt).getD [] ∧ world.SameTables after := by
  have hresult := (on_readEntries path world).1
  rw [h] at hresult
  refine ⟨?_, ((logs_readEntries path).rel_of_on h).sameTables⟩
  rw [World.fileAt?]
  split at hresult
  · next bytes hfind =>
    rw [hfind]
    obtain ⟨names, hnames, hfound⟩ := bind_eq_ok_iff.mp hfind
    obtain ⟨final, hwalk, hnode⟩ := FileTree.find_eq_ok_iff.mp hfound
    rw [← World.locate_eq_ok hnames, ← FileTree.eq_normalize_of_walk hwalk]
    obtain ⟨found, hfound, rfl⟩ := map_eq_ok_iff.mp hresult.symm
    simp only [Option.map_some, Option.getD_some, World.tableAt, hnode, hfound]
    cases found <;> rfl
  · cases hresult
  · next hnofile _ =>
    rw [Except.ok.inj hresult]
    split
    · next hfind => exact (hnofile _ hfind).elim
    · rfl

end RequestScript
