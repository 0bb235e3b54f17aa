import RequestScript.Proofs.World.Files

/-!
# Writing where there is a file

Where there is a file, its directory is there too, so that no directories are made and the file can
be written. Its content changes and nothing else does.
-/

namespace RequestScript

open RequestScript.Action

theorem World.locate_cases (world : World) (path : Path) :
    world.locate path = .ok (path.locate world.directory) ∨
      ∃ fault, world.locate path = .error fault ∧ fault ≠ .noSuchFile := by
  unfold locate
  split
  · exact .inr ⟨_, rfl, by decide⟩
  split
  · exact .inr ⟨_, rfl, by decide⟩
  · exact .inl rfl

namespace Action

variable {path : Path} {world : World} {node : FileNode}

theorem on_makeDirectory (path : Path) (world : World) :
    (makeDirectory path).on world =
      match world.locate path with
      | .error fault => (.error fault, world)
      | .ok names =>
        match world.files.makeDirectory names with
        | .error fault => (.error fault, world)
        | .ok files => (.ok (), { world with files }) := by
  unfold makeDirectory
  rw [on_bind, on_locate]
  cases world.locate path with
  | error fault => rfl
  | ok names =>
    dsimp only
    rw [on_bind, on_get]
    dsimp only
    rw [on_bind, on_lift]
    cases world.files.makeDirectory names <;> rfl

/-- A directory is not made where something stands. -/
theorem on_makeDirectory_of_found
    (hfind : world.files.find (path.locate world.directory) = .ok node) :
    ∃ fault, (makeDirectory path).on world = (.error fault, world) ∧ fault ≠ .noSuchFile := by
  rw [on_makeDirectory]
  rcases world.locate_cases path with hnames | ⟨fault, hfault, hne⟩
  · obtain ⟨place, hwalk, hnode⟩ := FileTree.find_eq_ok_iff.mp hfind
    refine ⟨.alreadyThere, ?_, by decide⟩
    simp only [hnames, FileTree.makeDirectory, hwalk, hnode, bind, Except.bind]
    rfl
  · exact ⟨fault, by rw [hfault], hne⟩

theorem on_makeMissing_of_found
    (hfind : world.files.find (path.locate world.directory) = .ok node) :
    ((makeMissing path).on world).2 = world ∧
      ∀ refusal, ((makeMissing path).on world).1 = .ok (.error refusal) →
        refusal.fault ≠ .noSuchFile := by
  obtain ⟨fault, hmake, hne⟩ := on_makeDirectory_of_found hfind
  unfold makeMissing
  rw [on_bind, on_orRefused, hmake]
  dsimp only
  cases fault.refusal? with
  | none => exact ⟨rfl, nofun⟩
  | some reason =>
    dsimp only
    split
    · exact ⟨rfl, fun refusal hrefusal => by cases hrefusal; exact hne⟩
    · rw [on_bind, reads_isDirectory.on_eq world]
      rcases (isDirectory path |>.on world).1 with other | found
      · exact ⟨rfl, nofun⟩
      · cases found
        · exact ⟨rfl, fun refusal hrefusal => by cases hrefusal; exact hne⟩
        · exact ⟨rfl, nofun⟩

/-- No directories are made where something stands. -/
theorem on_makeDirectories_of_found
    (hfind : world.files.find (path.locate world.directory) = .ok node) (steps : Nat) :
    ((makeDirectories path steps).on world).2 = world := by
  obtain ⟨hsame, hrefusal⟩ := on_makeMissing_of_found hfind
  cases steps with
  | zero => exact hsame
  | succ steps =>
    unfold makeDirectories
    rw [on_bind]
    rcases hmade : (makeMissing path).on world with ⟨fault | refusal | _, after⟩
    · rw [hmade] at hsame
      exact hsame
    · rw [hmade] at hsame hrefusal
      have hne := hrefusal refusal rfl
      dsimp only
      rw [if_pos (by simpa using hne)]
      exact hsame
    · rw [hmade] at hsame
      exact hsame

/-- Where there is a directory, all is well without one being made. -/
theorem on_makeDirectories_of_directory {names : List String}
    (hnames : world.locate path = .ok names) (hfind : world.files.find names = .ok .directory)
    (steps : Nat) : (makeDirectories path steps).on world = (.ok (.ok ()), world) := by
  have hfound : world.find path = .ok .directory := by
    rw [World.find, hnames]
    exact hfind
  have hmake : (makeDirectory path).on world = (.error .alreadyThere, world) := by
    obtain ⟨place, hwalk, hnode⟩ := FileTree.find_eq_ok_iff.mp hfind
    rw [on_makeDirectory]
    simp only [hnames, FileTree.makeDirectory, hwalk, hnode, bind, Except.bind]
    rfl
  have hmissing : (makeMissing path).on world = (.ok (.ok ()), world) := by
    unfold makeMissing
    rw [on_bind, on_orRefused, hmake]
    dsimp only [Fault.refusal?]
    rw [if_neg (by decide), on_bind, on_isDirectory, hfound]
    rfl
  cases steps with
  | zero => exact hmissing
  | succ steps =>
    unfold makeDirectories
    rw [on_bind, hmissing]
    rfl

end Action

/-- A path leads to a file at a place. -/
def World.HasFile (world : World) (path : Path) (place : List String) : Prop :=
  world.files.walk [] (path.locate world.directory) = .ok place ∧
    ∃ content, world.files.node? place = some (.file content)

theorem World.hasFile_of_find {world : World} {path : Path} {content : ByteArray}
    (h : world.find path = .ok (.file content)) : ∃ place, world.HasFile path place := by
  obtain ⟨names, hnames, hfind⟩ := bind_eq_ok_iff.mp h
  obtain ⟨place, hwalk, hnode⟩ := FileTree.find_eq_ok_iff.mp hfind
  exact ⟨place, world.locate_eq_ok hnames ▸ hwalk, content, hnode⟩

/-- A file that has a name stands in a directory. -/
theorem World.HasFile.find_parent_eq {world : World} {path : Path} {place : List String}
    (h : world.HasFile path place) (hparts : path.parts ≠ []) :
    world.files.find (path.parent.locate world.directory) = .ok .directory := by
  have hsplit : path.parts = path.parent.parts ++ [path.parts.getLast hparts] :=
    (List.dropLast_append_getLast hparts).symm
  have hroot : path.parent.isAbsolute = path.isAbsolute := rfl
  have hlast : path.locate world.directory =
      path.parent.locate world.directory ++ [path.parts.getLast hparts] := by
    unfold Path.locate
    rw [hroot]
    split
    · exact hsplit
    · rw [List.append_assoc, ← hsplit]
  have hwalk := h.1
  rw [hlast, FileTree.walk_append] at hwalk
  obtain ⟨between, hfront, hback⟩ := bind_eq_ok_iff.mp hwalk
  exact FileTree.find_of_walk hfront (FileTree.walk_cons_eq_ok hback).1

/-- There is something where a file is to be found, or else its directory is. -/
theorem World.HasFile.find_parent {world : World} {path : Path} {place : List String}
    (h : world.HasFile path place) :
    ∃ node, world.files.find (path.parent.locate world.directory) = .ok node := by
  by_cases hparts : path.parts = []
  · have hparent : path.parent = path := by
      rw [Path.parent, hparts, List.dropLast_nil, ← hparts]
    obtain ⟨hwalk, content, hnode⟩ := h
    exact ⟨_, hparent ▸ FileTree.find_of_walk hwalk hnode⟩
  · exact ⟨_, h.find_parent_eq hparts⟩

/-- The text of the directory of a path is a dot, or the text of the path starts with it. -/
theorem Path.text_parent {path : Path} (hparts : path.parts ≠ []) :
    path.parent.text = "." ∨ ∃ more, path.text = path.parent.text ++ more := by
  obtain ⟨root, parts⟩ := path
  obtain ⟨front, last, rfl⟩ : ∃ front last, parts = front ++ [last] :=
    ⟨_, _, (List.dropLast_append_getLast hparts).symm⟩
  have htext : (⟨root, front ++ [last]⟩ : Path).text =
      root ++ "/".intercalate (front ++ [last]) := by
    simp [Path.text]
  have hparent : (⟨root, front ++ [last]⟩ : Path).parent = ⟨root, front⟩ := by
    rw [Path.parent, List.dropLast_concat]
  rw [hparent, htext]
  by_cases hdot : (root.isEmpty && front.isEmpty) = true
  · exact .inl (if_pos hdot)
  · have hfront : (⟨root, front⟩ : Path).text = root ++ "/".intercalate front := if_neg hdot
    right
    rw [hfront]
    cases front with
    | nil => exact ⟨last, by simp⟩
    | cons first rest =>
      refine ⟨"/" ++ last, ?_⟩
      rw [String.intercalate_append_of_ne_nil (by simp) (by simp), String.intercalate_singleton]
      simp only [String.append_assoc]

/-- A path leads somewhere where its directory does. -/
theorem World.locate_parent {world : World} {path : Path} {names : List String}
    (h : world.locate path = .ok names) (hparts : path.parts ≠ []) :
    world.locate path.parent = .ok (path.parent.locate world.directory) := by
  unfold locate at h ⊢
  split at h
  · cases h
  next hnull =>
  split at h
  · cases h
  next hlong =>
  rw [String.contains_char_eq, decide_eq_true_eq] at hnull
  rw [String.contains_char_eq]
  rcases Path.text_parent hparts with hdot | ⟨more, htext⟩
  · rw [hdot, if_neg (by decide), if_neg (by decide +kernel)]
  · rw [htext, String.toList_append, List.mem_append, not_or] at hnull
    rw [htext, String.utf8ByteSize_append] at hlong
    rw [if_neg (by simpa using hnull.1), if_neg (by omega)]

/-- **A table can be written where there is a file**, and room for it. -/
theorem exists_writeEntries {path : Path} {world : World} {content : ByteArray}
    (hfind : world.find path = .ok (.file content)) (hparts : path.parts ≠ [])
    {entries : Table Value} (hroom : (Value.object entries).depth ≤ world.room) :
    ∃ after, (writeEntries path entries).on world = (.ok (), after) ∧ world.Wrote after := by
  obtain ⟨names, hnames, hfound⟩ := bind_eq_ok_iff.mp hfind
  obtain ⟨files, hfiles⟩ := FileTree.exists_write hfound (Value.object entries).pretty.toUTF8
  have hmade : (makeDirectories path.parent path.parent.parts.length).on world =
      (.ok (.ok ()), world) := by
    obtain ⟨place, hfile⟩ := World.hasFile_of_find hfind
    exact on_makeDirectories_of_directory (World.locate_parent hnames hparts)
      (hfile.find_parent_eq hparts) _
  exact ⟨_, on_writeEntries_of_makeDirectories hmade hroom hnames hfiles, _, _, rfl⟩

/-- A table is written where its directory can be made. -/
theorem on_writeEntries_of_makeDirectory {path : Path} {world : World} {entries : Table Value}
    {parents names : List String} {made files : FileTree}
    (hparents : world.locate path.parent = .ok parents)
    (hmade : world.files.makeDirectory parents = .ok made)
    (hnames : world.locate path = .ok names) (hroom : (Value.object entries).depth ≤ world.room)
    (hfiles : made.write names (Value.object entries).pretty.toUTF8 = .ok files) :
    (writeEntries path entries).on world = (.ok (), { world with
      files
      events := .wrote (Path.normalize names) (Value.object entries).pretty.toUTF8 ::
        world.events }) := by
  have hmissing : (makeMissing path.parent).on world =
      (.ok (.ok ()), { world with files := made }) := by
    unfold makeMissing
    rw [on_bind, on_orRefused, on_makeDirectory, hparents]
    dsimp only
    rw [hmade]
    rfl
  have hdirectories (steps : Nat) : (makeDirectories path.parent steps).on world =
      (.ok (.ok ()), { world with files := made }) := by
    cases steps with
    | zero => exact hmissing
    | succ steps =>
      unfold makeDirectories
      rw [on_bind, hmissing]
      rfl
  have hwritten := on_writeEntries_of_makeDirectories (hdirectories _) hroom hnames hfiles
  exact hwritten

/-- Where there is a file, writing to it changes its content or nothing. -/
theorem overwritten_writeEntries {path : Path} {place : List String} {world : World}
    (hfile : world.HasFile path place) (entries : Table Value) :
    FileTree.Overwritten place world.files ((writeEntries path entries).on world).2.files := by
  obtain ⟨node, hparent⟩ := hfile.find_parent
  obtain ⟨hwalk, content, hnode⟩ := hfile
  have hrefl := FileTree.Overwritten.refl hnode
  have hmade := on_makeDirectories_of_found hparent path.parent.parts.length
  unfold writeEntries
  rw [on_bind]
  rcases hdirectories : (makeDirectories path.parent path.parent.parts.length).on world with
    ⟨fault | refusal | _, after⟩ <;>
    (rw [hdirectories] at hmade; obtain rfl : after = world := hmade)
  · exact hrefl
  · exact hrefl
  · dsimp only
    rw [on_bind, on_needRoom]
    by_cases hroom : after.room < (Value.object entries).depth
    · rw [if_pos hroom]
      exact hrefl
    rw [if_neg hroom]
    dsimp only
    rw [on_bind, on_orRefused, on_writeText]
    cases hnames : after.locate path with
    | error fault =>
      dsimp only
      cases fault.refusal? <;> exact hrefl
    | ok names =>
      obtain rfl := World.locate_eq_ok hnames
      dsimp only
      cases hfiles : after.files.write (path.locate after.directory)
          (Value.object entries).pretty.toUTF8 with
      | error fault =>
        dsimp only
        cases fault.refusal? <;> exact hrefl
      | ok files => exact (FileTree.overwritten_of_write hwalk hnode hfiles).1

/-! ## A world with one file -/

/-- A quiet world with a file of variables in the current directory. -/
def World.holding (entries : Table Value) : World :=
  { World.quiet with
    files := ⟨[(["rext.env.json"], .file (Value.object entries).pretty.toUTF8)]⟩ }

theorem World.find_holding (entries : Table Value) (store : Store) :
    World.find { World.holding entries with store } ⟨"", ["rext.env.json"]⟩ =
      .ok (.file (Value.object entries).pretty.toUTF8) := by
  have hnames : World.locate { World.holding entries with store } ⟨"", ["rext.env.json"]⟩ =
      .ok ["rext.env.json"] := World.locate_of_text (by decide +kernel) (by decide +kernel)
  rw [World.find, hnames]
  rfl

end RequestScript
