import RequestScript.Proofs.FileTree
import RequestScript.Proofs.Text.Utf8
import RequestScript.Proofs.Value.Plain
import RequestScript.Proofs.Value.RoundTrip
import RequestScript.Proofs.World.Moves

/-!
# Files of variables

What the actions on files find and change in a world. A table that is written to a file is read from
it again, where it could have been read from a text.
-/

namespace RequestScript

/-- The absolute names of a path in a world. -/
def World.locate (world : World) (path : Path) : Except Fault (List String) :=
  if path.text.contains '\x00' then .error .nullInPath
  else if Action.pathLimit < path.text.utf8ByteSize then .error .nameTooLong
  else .ok (path.locate world.directory)

/-- What stands at a path in a world. -/
def World.find (world : World) (path : Path) : Except Fault FileNode :=
  world.locate path >>= world.files.find

/-- A file has been written, and nothing else has been noted since. -/
def World.Wrote (world after : World) : Prop :=
  ∃ place content, after.events = .wrote place content :: world.events

theorem World.locate_eq_ok {world : World} {path : Path} {names : List String}
    (h : world.locate path = .ok names) : names = path.locate world.directory := by
  unfold locate at h
  split at h
  · cases h
  split at h
  · cases h
  · exact (Except.ok.inj h).symm

/-- A path leads somewhere if its text may be that of a path. -/
theorem World.locate_of_text {world : World} {path : Path} (hnull : '\x00' ∉ path.text.toList)
    (hlength : path.text.utf8ByteSize ≤ Action.pathLimit) :
    world.locate path = .ok (path.locate world.directory) := by
  unfold locate
  rw [String.contains_char_eq, if_neg (by simpa using hnull), if_neg (Nat.not_lt.mpr hlength)]

/-- A path that leads somewhere has no null character. -/
theorem World.contains_eq_false_of_locate {world : World} {path : Path} {names : List String}
    (h : world.locate path = .ok names) : path.text.contains '\x00' = false := by
  unfold locate at h
  split at h
  · cases h
  · next hnull => simpa using hnull

/-- A path leads to where a file can be written. -/
def World.IsWritableAt (world : World) (path : Path) : Prop :=
  ∃ names, world.locate path = .ok names ∧
    ∀ content, ∃ files, world.files.write names content = .ok files

theorem World.isWritableAt_of_find {world : World} {path : Path} {content : ByteArray}
    (h : world.find path = .ok (.file content)) : world.IsWritableAt path := by
  obtain ⟨names, hnames, hfound⟩ := bind_eq_ok_iff.mp h
  exact ⟨names, hnames, FileTree.exists_write hfound⟩

/-- From one world to another one with nothing but messages in the log. -/
def World.Logs (world after : World) : Prop :=
  ∃ logged, after = { world with events := logged ++ world.events } ∧
    ∀ event ∈ logged, event.isLogged

instance : IsPreorder World World.Logs where
  refl world := ⟨[], rfl, by simp⟩
  trans := by
    rintro world _ _ ⟨logged, rfl, hlogged⟩ ⟨more, rfl, hmore⟩
    refine ⟨more ++ logged, by rw [List.append_assoc], fun event hmem => ?_⟩
    exact (List.mem_append.mp hmem).elim (hmore event) (hlogged event)

namespace Action

variable {world : World} {path : Path}

theorem on_locate (path : Path) (world : World) :
    (locate path).on world = (world.locate path, world) := by
  unfold locate World.locate
  dsimp only
  split
  · rfl
  · split <;> rfl

theorem on_find (path : Path) (world : World) :
    (find path).on world = (world.find path, world) := by
  unfold find World.find
  rw [on_bind, on_locate]
  cases world.locate path <;> rfl

theorem on_find? (path : Path) (world : World) :
    (find? path).on world =
      (match world.find path with
        | .ok node => .ok (some node)
        | .error .nameTooLong => .error .nameTooLong
        | .error _ => .ok none, world) := by
  unfold find?
  rw [on_tryCatch, map_eq_pure_bind, on_bind, on_find]
  rcases world.find path with fault | node
  · cases fault <;> rfl
  · rfl

theorem on_readBytes (path : Path) (world : World) :
    (readBytes path).on world =
      (match world.find path with
        | .ok (.file content) => .ok content
        | .ok .directory => .error .isDirectory
        | .error fault => .error fault, world) := by
  unfold readBytes World.find
  rw [on_bind, on_locate]
  cases world.locate path with
  | error fault => rfl
  | ok names =>
    dsimp only
    rw [on_bind, on_get]
    dsimp only
    rw [on_lift]
    unfold FileTree.read
    simp only [bind, Except.bind]
    rcases world.files.find names with _ | _ | _ <;> rfl

theorem on_pathExists (path : Path) (world : World) :
    (pathExists path).on world =
      (match world.find path with
        | .ok _ => .ok true
        | .error .nameTooLong => .error .nameTooLong
        | .error _ => .ok false, world) := by
  unfold pathExists
  rw [on_bind, on_find?]
  rcases world.find path with fault | node
  · cases fault <;> rfl
  · rfl

theorem on_isDirectory (path : Path) (world : World) :
    (isDirectory path).on world =
      (match world.find path with
        | .ok node => .ok (some node == some .directory)
        | .error .nameTooLong => .error .nameTooLong
        | .error _ => .ok false, world) := by
  unfold isDirectory
  rw [on_bind, on_find?]
  rcases world.find path with fault | node
  · cases fault <;> rfl
  · rfl

theorem on_isFile (path : Path) (world : World) :
    (isFile path).on world =
      (match world.find path with
        | .ok (.file _) => .ok true
        | .ok .directory => .ok false
        | .error .nameTooLong => .error .nameTooLong
        | .error _ => .ok false, world) := by
  unfold isFile
  rw [on_bind, on_find?]
  rcases world.find path with fault | node
  · cases fault <;> rfl
  · cases node <;> rfl

/-- What stands at a path that has been looked at. -/
theorem on_isFile_ok {found : Bool} {after : World}
    (h : (isFile path).on world = (.ok found, after)) :
    world = after ∧ (found = true ↔ ∃ content, world.find path = .ok (.file content)) := by
  rw [on_isFile] at h
  obtain ⟨hfound, rfl⟩ := Prod.mk.inj h
  refine ⟨rfl, ?_⟩
  rcases hfind : world.find path with fault | _ | content
  · rw [hfind] at hfound
    cases fault <;> cases hfound <;> simp
  · rw [hfind] at hfound
    cases hfound
    simp
  · rw [hfind] at hfound
    cases hfound
    simp

/-- Bytes that have been read are those of a file. -/
theorem on_readBytes_ok {content : ByteArray} {after : World}
    (h : (readBytes path).on world = (.ok content, after)) :
    world = after ∧ world.find path = .ok (.file content) := by
  rw [on_readBytes] at h
  obtain ⟨hcontent, rfl⟩ := Prod.mk.inj h
  refine ⟨rfl, ?_⟩
  rcases hfind : world.find path with fault | _ | found <;> rw [hfind] at hcontent <;>
    cases hcontent
  rfl

/-- A text that has been read is spelt by the bytes of a file. -/
theorem on_readText_ok {text : String} {after : World}
    (h : (readText path).on world = (.ok text, after)) :
    world = after ∧ ∃ content, world.find path = .ok (.file content) ∧
      textOfBytes content = .ok text := by
  unfold readText at h
  obtain ⟨content, between, hread, h⟩ := on_bind_ok h
  obtain ⟨rfl, hfind⟩ := on_readBytes_ok hread
  obtain ⟨htext, rfl⟩ := on_lift_ok h
  exact ⟨rfl, content, hfind, htext⟩

/-- A refusal is a result. -/
theorem on_orRefused {α : Type} (path : Path) (action : Action α) (world : World) :
    (orRefused path action).on world =
      match action.on world with
      | (.ok x, after) => (.ok (.ok x), after)
      | (.error fault, after) =>
        match fault.refusal? with
        | some reason => (.ok (.error ⟨path, fault, reason⟩), after)
        | none => (.error fault, after) := by
  unfold orRefused
  rw [on_tryCatch, map_eq_pure_bind, on_bind]
  rcases action.on world with ⟨fault | x, after⟩
  · dsimp only
    cases fault.refusal? <;> rfl
  · rfl

theorem on_orRefused_ok {α : Type} {path : Path} {action : Action α} {world after : World} {x : α}
    (h : (orRefused path action).on world = (.ok (.ok x), after)) :
    action.on world = (.ok x, after) := by
  rw [on_orRefused] at h
  rcases hon : action.on world with ⟨fault | result, last⟩
  · rw [hon] at h
    dsimp only at h
    split at h <;> cases h
  · rw [hon] at h
    cases h
    rfl

end Action

open RequestScript.Action

/-! ## Reading -/

/-- The table that bytes hold, or what is wrong with them, where there is so much room. -/
def entriesWithin (room : Nat) (bytes : ByteArray) : Except Fault (Except String (Table Value)) :=
  match Text.misspelled? 0 0 bytes.toList with
  | some part => .ok (.error part.message)
  | none => do
    let text ← textOfBytes bytes
    match Layer.entriesOfText room text with
    | .ok entries => return .ok entries
    | .error .tooDeep => throw .tooDeep
    | .error error => return .error (error.message text.toList)

theorem on_entriesOfBytes (bytes : ByteArray) (world : World) :
    (entriesOfBytes bytes).on world = (entriesWithin world.room bytes, world) := by
  unfold entriesOfBytes entriesWithin
  cases Text.misspelled? 0 0 bytes.toList with
  | some part => rfl
  | none =>
    dsimp only
    rw [on_bind, on_lift]
    cases textOfBytes bytes with
    | error fault => rfl
    | ok text =>
      dsimp only
      rw [on_bind, on_get]
      dsimp only [bind, Except.bind]
      rcases Layer.entriesOfText world.room text with error | entries
      · cases error <;> rfl
      · rfl

/-- What reading a table gives, and that it only logs. -/
theorem on_readEntries (path : Path) (world : World) :
    ((readEntries path).on world).1 =
        (match world.find path with
          | .ok (.file bytes) => (entriesWithin world.room bytes).map fun found =>
            match found with
            | .ok entries => entries
            | .error _ => []
          | .error .nameTooLong => .error .nameTooLong
          | _ => .ok []) ∧
      world.Logs ((readEntries path).on world).2 := by
  have hlogged (message : String) : world.Logs
      ((log storageLog message >>= fun _ => pure ([] : Table Value)).on world).2 :=
    ⟨[.logged storageLog message], rfl, by simp [Event.isLogged]⟩
  unfold readEntries
  rw [on_bind, on_pathExists]
  rcases hfind : world.find path with fault | node
  · cases fault <;> exact ⟨rfl, Std.Refl.refl world⟩
  · dsimp only
    simp only [Bool.not_true, Bool.false_eq_true, if_false]
    rw [on_bind, on_orRefused, on_readBytes, hfind]
    cases node with
    | directory => exact ⟨rfl, hlogged _⟩
    | file bytes =>
      dsimp only
      rw [on_bind, on_entriesOfBytes]
      rcases entriesWithin world.room bytes with fault | reason | entries
      · exact ⟨rfl, Std.Refl.refl world⟩
      · exact ⟨rfl, hlogged _⟩
      · exact ⟨rfl, Std.Refl.refl world⟩

theorem logs_readEntries (path : Path) : Moves World.Logs (readEntries path) :=
  fun world => (on_readEntries path world).2

/-- A table is read from a file that holds it. -/
theorem on_readEntries_of_file {path : Path} {world : World} {bytes : ByteArray}
    {entries : Table Value} (hfind : world.find path = .ok (.file bytes))
    (hbytes : entriesWithin world.room bytes = .ok (.ok entries)) :
    (readEntries path).on world = (.ok entries, world) := by
  unfold readEntries
  rw [on_bind, on_pathExists, hfind]
  dsimp only
  simp only [Bool.not_true, Bool.false_eq_true, if_false]
  rw [on_bind, on_orRefused, on_readBytes, hfind]
  dsimp only
  rw [on_bind, on_entriesOfBytes, hbytes]
  rfl

/-- What is read to be in a table is in a file. -/
theorem exists_file_of_readEntries {path : Path} {world after : World} {entries : Table Value}
    (h : (readEntries path).on world = (.ok entries, after)) (hentries : entries ≠ []) :
    ∃ bytes, world.find path = .ok (.file bytes) ∧
      entriesWithin world.room bytes = .ok (.ok entries) := by
  have hresult := (on_readEntries path world).1
  rw [h] at hresult
  split at hresult
  · next bytes hfind =>
    obtain ⟨found, hfound, heq⟩ := map_eq_ok_iff.mp hresult.symm
    refine ⟨bytes, hfind, ?_⟩
    cases found with
    | ok inside => exact heq ▸ hfound
    | error reason => exact absurd heq.symm hentries
  · cases hresult
  · exact absurd (Except.ok.inj hresult) hentries

/-- A table that is read can be read from a text. -/
theorem isReadableWithin_of_entriesWithin {room : Nat} {bytes : ByteArray} {entries : Table Value}
    (h : entriesWithin room bytes = .ok (.ok entries)) (hentries : entries ≠ []) :
    (Value.object entries).IsReadableWithin room := by
  unfold entriesWithin at h
  split at h
  · cases h
  · obtain ⟨text, -, htext⟩ := bind_eq_ok_iff.mp h
    split at htext
    · next found hfound =>
      obtain rfl : found = entries := Except.ok.inj (Except.ok.inj htext)
      obtain ⟨value, hvalue, hfields⟩ := bind_eq_ok_iff.mp hfound
      have hreadable := Value.readable_of_ofJson hvalue
      cases value with
      | object fields =>
        obtain rfl : fields = found := Except.ok.inj hfields
        exact hreadable
      | _ => exact absurd (Except.ok.inj hfields).symm hentries
    · cases htext
    · cases htext

/-- A table that has been read can be read again. -/
theorem isReadable_of_readEntries {path : Path} {world after : World} {entries : Table Value}
    (h : (readEntries path).on world = (.ok entries, after)) :
    (Value.object entries).IsReadable := by
  by_cases hentries : entries = []
  · subst hentries
    exact .intro List.nodup_nil nofun
  · obtain ⟨bytes, -, hbytes⟩ := exists_file_of_readEntries h hentries
    exact (isReadableWithin_of_entriesWithin hbytes hentries).1

/-- The bytes of the text of a value spell that text. -/
theorem textOfBytes_pretty (value : Value) :
    textOfBytes value.pretty.toUTF8 = .ok value.pretty := by
  have htext : value.pretty.toList = value.write .pretty 0 := String.toList_ofList
  rw [textOfBytes, Text.fromUTF8?_toUTF8]
  dsimp only
  rw [htext, Text.universalNewlines_of_isPlain (Value.isPlain_write value 0)]
  rfl

theorem ofJson_pretty {room : Nat} {value : Value} (h : value.IsReadableWithin room) :
    Value.ofJson room value.pretty.toList = .ok value := by
  have htext : value.pretty.toList = value.write .pretty 0 := String.toList_ofList
  rw [htext, Value.ofJson_write .pretty 0 h]

/-- The bytes of a table hold the table. -/
theorem entriesWithin_pretty {room : Nat} {entries : Table Value}
    (h : (Value.object entries).IsReadableWithin room) :
    entriesWithin room (Value.object entries).pretty.toUTF8 = .ok (.ok entries) := by
  have htext : (Value.object entries).pretty.toList = (Value.object entries).write .pretty 0 :=
    String.toList_ofList
  have hspelled : Text.misspelled? 0 0 (Value.object entries).pretty.toUTF8.toList = none := by
    rw [Text.toList_toUTF8, htext]
    exact Text.misspelled?_of_isPlain (Value.isPlain_write _ 0) 0
  have hread : Layer.entriesOfText room (Value.object entries).pretty = .ok entries := by
    rw [Layer.entriesOfText, ofJson_pretty h]
    rfl
  rw [entriesWithin, hspelled, textOfBytes_pretty]
  simp only [bind, Except.bind, hread]
  rfl

/-! ## Writing -/

namespace Action

theorem on_writeText (path : Path) (text : String) (world : World) :
    (writeText path text).on world =
      match world.locate path with
      | .error fault => (.error fault, world)
      | .ok names =>
        match world.files.write names text.toUTF8 with
        | .error fault => (.error fault, world)
        | .ok files => (.ok (), { world with
            files, events := .wrote (Path.normalize names) text.toUTF8 :: world.events }) := by
  unfold writeText
  rw [on_bind, on_locate]
  cases world.locate path with
  | error fault => rfl
  | ok names =>
    dsimp only
    rw [on_bind, on_get]
    dsimp only
    rw [on_bind, on_lift]
    cases world.files.write names text.toUTF8 <;> rfl

/-- A text is written where its path leads. -/
theorem on_writeText_ok {path : Path} {text : String} {world after : World}
    (h : (writeText path text).on world = (.ok (), after)) :
    ∃ names files, world.locate path = .ok names ∧
      world.files.write names text.toUTF8 = .ok files ∧
      after = { world with
        files, events := .wrote (Path.normalize names) text.toUTF8 :: world.events } := by
  rw [on_writeText] at h
  cases hnames : world.locate path with
  | error fault =>
    rw [hnames] at h
    cases h
  | ok names =>
    rw [hnames] at h
    dsimp only at h
    cases hfiles : world.files.write names text.toUTF8 with
    | error fault =>
      rw [hfiles] at h
      cases h
    | ok files =>
      rw [hfiles] at h
      obtain ⟨-, rfl⟩ := Prod.mk.inj h
      exact ⟨names, files, rfl, hfiles, rfl⟩

theorem on_needRoom (levels : Nat) (world : World) :
    (needRoom levels).on world =
      (if world.room < levels then .error .tooDeep else .ok (), world) := by
  unfold needRoom
  rw [on_bind, on_get]
  dsimp only
  split <;> rfl

theorem on_needRoom_ok {levels : Nat} {world after : World}
    (h : (needRoom levels).on world = (.ok (), after)) : levels ≤ world.room ∧ world = after := by
  rw [on_needRoom] at h
  obtain ⟨henough, rfl⟩ := Prod.mk.inj h
  split at henough
  · cases henough
  · next hroom => exact ⟨Nat.not_lt.mp hroom, rfl⟩

end Action

/-- A table is written once the directories for it are there, if there is room for it. -/
theorem on_writeEntries_of_makeDirectories {path : Path} {entries : Table Value}
    {world between : World} {names : List String} {files : FileTree}
    (hmade : (makeDirectories path.parent path.parent.parts.length).on world =
      (.ok (.ok ()), between))
    (hroom : (Value.object entries).depth ≤ between.room) (hnames : between.locate path = .ok names)
    (hfiles : between.files.write names (Value.object entries).pretty.toUTF8 = .ok files) :
    (writeEntries path entries).on world = (.ok (), { between with
      files, events := .wrote (Path.normalize names) (Value.object entries).pretty.toUTF8 ::
        between.events }) := by
  unfold writeEntries
  rw [on_bind_of_ok hmade]
  dsimp only
  rw [on_bind, on_needRoom, if_neg (Nat.not_lt.mpr hroom)]
  dsimp only
  rw [on_bind, on_orRefused, on_writeText, hnames]
  dsimp only
  rw [hfiles]
  rfl

/-- What has to go well for a table to be written. That it is written is the last thing noted. -/
theorem exists_write_of_events {path : Path} {entries : Table Value} {world after : World}
    (h : (writeEntries path entries).on world = (.ok (), after)) {place : List String}
    {content : ByteArray} {events : List Event}
    (hevents : after.events = .wrote place content :: events) :
    ∃ between names files,
      (makeDirectories path.parent path.parent.parts.length).on world = (.ok (.ok ()), between) ∧
      (Value.object entries).depth ≤ between.room ∧ between.locate path = .ok names ∧
      between.files.write names (Value.object entries).pretty.toUTF8 = .ok files ∧
      after = { between with
        files, events := .wrote (Path.normalize names) (Value.object entries).pretty.toUTF8 ::
          between.events } := by
  unfold writeEntries at h
  obtain ⟨made, between, hmade, hrest⟩ := on_bind_ok h
  cases made with
  | error refusal =>
    cases hrest
    cases hevents
  | ok =>
    dsimp only at hrest
    obtain ⟨_, room, hroom, hwrite⟩ := on_bind_ok hrest
    obtain ⟨hdepth, rfl⟩ := on_needRoom_ok hroom
    obtain ⟨written, last, hwritten, hend⟩ := on_bind_ok hwrite
    -- A refusal would have been noted after the table is written.
    cases written with
    | error refusal =>
      cases hend
      cases hevents
    | ok =>
      cases hend
      obtain ⟨names, files, hnames, hfiles, rfl⟩ := on_writeText_ok (on_orRefused_ok hwritten)
      exact ⟨between, names, files, hmade, hdepth, hnames, hfiles, rfl⟩

/-- **A table that is written is read again.** -/
theorem readEntries_of_writeEntries {path : Path} {entries : Table Value} {world after : World}
    (hentries : (Value.object entries).IsReadable)
    (h : (writeEntries path entries).on world = (.ok (), after)) (hwrote : world.Wrote after) :
    after.find path = .ok (.file (Value.object entries).pretty.toUTF8) ∧
      entriesWithin after.room (Value.object entries).pretty.toUTF8 = .ok (.ok entries) := by
  obtain ⟨place, content, hevents⟩ := hwrote
  obtain ⟨between, names, files, -, hdepth, hnames, hfiles, rfl⟩ := exists_write_of_events h hevents
  refine ⟨?_, entriesWithin_pretty ⟨hentries, hdepth⟩⟩
  have hsame : World.locate { between with
      files, events := .wrote (Path.normalize names) (Value.object entries).pretty.toUTF8 ::
        between.events } path = between.locate path := rfl
  rw [World.find, hsame, hnames]
  exact FileTree.find_of_write hfiles

end RequestScript
