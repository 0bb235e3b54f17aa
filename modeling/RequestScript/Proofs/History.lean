import RequestScript.History
import RequestScript.Proofs.Value.Readable
import RequestScript.Proofs.World.Files

/-!
# Saving runs in the history

A run is saved before the entries that the history file holds; a file that cannot be read holds
none, and one that cannot be written is left alone. What stops a run from being saved is a history
that is no list or that is nested too deeply, apart from a clock that is off the calendar, numbers
that have no numeral and a home directory that no path can lead to.
-/

namespace RequestScript

open RequestScript.Action

/-- The path of the history file. -/
def World.historyPath (world : World) : Path :=
  world.homePath.child History.fileName

namespace History

variable {report : Report} {id : Option String} {world after : World} {fault : Fault}

/-- What stops a run from being saved. -/
inductive Stops (report : Report) (world : World) : Fault → Prop
  /-- The history is nested too deeply. -/
  | tooDeep : (load.on world).1 = .error .tooDeep → Stops report world .tooDeep
  /-- The history is a value that is no list. -/
  | noList {history : Value} : (load.on world).1 = .ok history →
      (∀ entries, history ≠ .array entries) → Stops report world .notAList
  /-- The clock is off the calendar. -/
  | clock {fault : Fault} : Moment.ofMilliseconds world.clock = .error fault →
      Stops report world fault
  /-- The status or the duration has too many digits. -/
  | numeral : Text.isTooLong report.status = true ∨ Text.isTooLong report.duration = true →
      Stops report world .numeralTooLong
  /-- The home directory has a null character in its name. -/
  | home : world.historyPath.text.contains '\x00' = true → Stops report world .nullInPath

/-- The history after a run: its entry first, then those that there were. -/
def entriesAfter (report : Report) (id : Option String) (moment : Moment) (old : List Value) :
    List Value :=
  entry report id moment.isoText :: old.take (limit - 1)

/-- A run is saved: the history file holds its entry first and then those that there were, unless
the file system refuses to have it written. -/
def IsSaved (report : Report) (id : Option String) (world after : World) : Prop :=
  ∃ old moment, (load.on world).1 = .ok (.array old) ∧
    Moment.ofMilliseconds world.clock = .ok moment ∧
    let text := (Value.array (entriesAfter report id moment old)).pretty
    (after.find world.historyPath = .ok (.file text.toUTF8) ∧ world.Wrote after) ∨
      ∃ refused, refused.refusal?.isSome ∧
        (writeText world.historyPath text).on world = (.error refused, after) ∧ after = world

/-! ## Loading -/

theorem reads_load : Reads load := by
  have hpath : Reads path := .bind_get (fun _ => .pure _) fun _ _ _ => rfl
  unfold load readText?
  refine hpath.bind fun path => Reads.bind ?_ fun text => ?_
  · rw [map_eq_pure_bind]
    exact .tryCatch (reads_readText.bind fun _ => .pure _) fun _ => .pure _
  · split
    · exact .lift _
    · exact .pure _

/-- What is loaded is what a text holds, or no entry. -/
theorem load_cases (world : World) :
    (∃ text, (load.on world).1 = ofText text) ∨ (load.on world).1 = .ok (.array []) := by
  have hpath : path.on world = (.ok world.historyPath, world) := rfl
  have hread : ∃ found, (readText? world.historyPath).on world = (.ok found, world) := by
    unfold readText?
    rw [on_tryCatch, map_eq_pure_bind, on_bind, reads_readText.on_eq world]
    cases ((readText world.historyPath).on world).1 <;> exact ⟨_, rfl⟩
  obtain ⟨found, hfound⟩ := hread
  unfold load
  rw [on_bind_of_ok hpath]
  rw [on_bind, hfound]
  cases found with
  | none => exact .inr rfl
  | some text => exact .inl ⟨text, rfl⟩

/-- The history is loaded from its file, where that one can be read. -/
theorem load_of_find {bytes : ByteArray} {text : String}
    (hfind : world.find world.historyPath = .ok (.file bytes))
    (htext : textOfBytes bytes = .ok text) : (load.on world).1 = ofText text := by
  have hpath : path.on world = (.ok world.historyPath, world) := rfl
  have hread : (readText? world.historyPath).on world = (.ok (some text), world) := by
    unfold readText? readText
    rw [on_tryCatch, map_eq_pure_bind, on_bind, on_bind, on_readBytes, hfind]
    dsimp only
    rw [on_lift, htext]
    rfl
  unfold load
  rw [on_bind_of_ok hpath]
  rw [on_bind, hread]
  rfl

/-- Where there is no history file, there is no entry. -/
theorem load_of_no_file (hfind : ∀ bytes, world.find world.historyPath ≠ .ok (.file bytes)) :
    (load.on world).1 = .ok (.array []) := by
  have hpath : path.on world = (.ok world.historyPath, world) := rfl
  have hread : (readText? world.historyPath).on world = (.ok none, world) := by
    unfold readText? readText
    rw [on_tryCatch, map_eq_pure_bind, on_bind, on_bind, on_readBytes]
    rcases hfound : world.find world.historyPath with _ | _ | bytes
    · rfl
    · rfl
    · exact absurd hfound (hfind bytes)
  unfold load
  rw [on_bind_of_ok hpath]
  rw [on_bind, hread]
  rfl

theorem load_of_missing (hfind : world.find world.historyPath = .error .noSuchFile) :
    (load.on world).1 = .ok (.array []) :=
  load_of_no_file fun bytes => by rw [hfind]; exact nofun

/-- Only a history that is nested too deeply cannot be loaded. -/
theorem load_error (h : (load.on world).1 = .error fault) : fault = .tooDeep := by
  rcases load_cases world with ⟨text, htext⟩ | hnone
  · rw [htext, ofText, Value.read] at h
    split at h <;> cases h
    rfl
  · rw [hnone] at h
    cases h

/-- The entries that are loaded can be written again. -/
theorem isWritable_of_load {old : List Value} (h : (load.on world).1 = .ok (.array old)) :
    ∀ value ∈ old, value.isWritable = true := by
  rcases load_cases world with ⟨text, htext⟩ | hnone
  · rw [htext, ofText, Value.read] at h
    split at h
    · next value hvalue =>
      obtain rfl : value = .array old := Except.ok.inj h
      have hreadable := (Value.readable_of_ofJson hvalue).1
      exact fun item hitem => Value.IsReadable.isWritable (hreadable.inside item hitem)
    · cases h
    · obtain rfl : [] = old := Value.array.inj (Except.ok.inj h)
      simp
  · rw [hnone] at h
    obtain rfl : [] = old := Value.array.inj (Except.ok.inj h)
    simp

/-! ## Saving -/

/-- What holds for a field holds for it where it may be left out. -/
theorem forall_mem_optionalField {name : String} {value : Value} {p : String × Value → Prop}
    (h : p (name, value)) : ∀ field ∈ optionalField name value, p field := by
  intro field hfield
  unfold optionalField at hfield
  split at hfield
  · obtain rfl := List.mem_singleton.mp hfield
    exact h
  · cases hfield

/-- An entry can be written if its status and its duration can. -/
theorem isWritable_entry (report : Report) (id : Option String) (timestamp : String) :
    (entry report id timestamp).isWritable =
      (!Text.isTooLong report.status && !Text.isTooLong report.duration) := by
  have htexts (table : Table String) : (Value.ofStrings table).isWritable = true :=
    Value.areFieldsWritable_iff.mpr fun field hfield => by
      obtain ⟨_, -, rfl⟩ := List.mem_map.mp hfield
      rfl
  have hverdicts (verdicts : List Assertion.Verdict) :
      (Value.array (verdicts.map ofVerdict)).isWritable = true :=
    Value.areWritable_iff.mpr fun item hitem => by
      obtain ⟨_, -, rfl⟩ := List.mem_map.mp hitem
      rfl
  have hoptional (name : String) {value : Value} (h : value.isWritable = true) :
      ∀ field ∈ optionalField name value, field.2.isWritable = true :=
    forall_mem_optionalField h
  have htext (text : Option String) : (ofText? text).isWritable = true := by
    cases text <;> rfl
  have hrest : Value.areFieldsWritable (optionalField "name" (ofText? report.name) ++
      (optionalField "id" (ofText? id) ++
        (optionalField "headers" (.ofStrings (keptHeaders report.requestHeaders)) ++
          optionalField "assertions" (.array (report.verdicts.map ofVerdict))))) = true := by
    rw [Value.areFieldsWritable_iff]
    simp only [List.forall_mem_append]
    exact ⟨hoptional "name" (htext report.name), hoptional "id" (htext id),
      hoptional "headers" (htexts _), hoptional "assertions" (hverdicts _)⟩
  rw [entry, List.append_assoc, List.append_assoc, List.append_assoc]
  simp [Value.isWritable, Value.areFieldsWritable, Value.isFieldWritable, hrest]

/-- The history after a run can be written if the status and the duration of the run can. -/
theorem areWritable_entriesAfter {old : List Value} {moment : Moment}
    (hload : (load.on world).1 = .ok (.array old)) :
    Value.areWritable (entriesAfter report id moment old) =
      (!Text.isTooLong report.status && !Text.isTooLong report.duration) := by
  have hold : Value.areWritable (old.take (limit - 1)) = true :=
    Value.areWritable_iff.mpr fun value hvalue =>
      isWritable_of_load hload value (List.mem_of_mem_take hvalue)
  rw [entriesAfter, Value.areWritable, hold, Bool.and_true, isWritable_entry]

theorem isSome_refusal?_of_walk {tree : FileTree} {place names : List String}
    (h : tree.walk place names = .error fault) : fault.refusal?.isSome := by
  induction names generalizing place with
  | nil => cases h
  | cons name names ih =>
    unfold FileTree.walk at h
    split at h
    · split at h
      · cases h
        rfl
      · exact ih h
    · cases h
      rfl
    · cases h
      rfl

/-- What the file system says about a file that is not written is a refusal. -/
theorem isSome_refusal?_of_write {tree : FileTree} {names : List String} {content : ByteArray}
    (h : tree.write names content = .error fault) : fault.refusal?.isSome := by
  unfold FileTree.write at h
  rcases bind_eq_error_iff.mp h with hwalk | ⟨place, -, hplace⟩
  · exact isSome_refusal?_of_walk hwalk
  · split at hplace <;> cases hplace <;> rfl

/-- A text is written to the history file, unless the file system refuses it or no path leads
there. -/
theorem write_cases (text : String) (world : World) :
    let written := (orRefused world.historyPath (writeText world.historyPath text)).on world
    (world.historyPath.text.contains '\x00' = true ∧ written = (.error .nullInPath, world)) ∨
      ∃ made after, written = (.ok made, after) ∧
        ((after.find world.historyPath = .ok (.file text.toUTF8) ∧ world.Wrote after) ∨
          ∃ refused, refused.refusal?.isSome ∧
            (writeText world.historyPath text).on world = (.error refused, after) ∧
            after = world) := by
  intro written
  have hwritten : written = _ := on_orRefused _ _ _
  rw [on_writeText] at hwritten ⊢
  unfold World.locate at hwritten ⊢
  by_cases hnull : world.historyPath.text.contains '\x00' = true
  · rw [if_pos hnull] at hwritten
    exact .inl ⟨hnull, hwritten⟩
  rw [if_neg hnull] at hwritten ⊢
  by_cases hlong : pathLimit < world.historyPath.text.utf8ByteSize
  · rw [if_pos hlong] at hwritten ⊢
    exact .inr ⟨_, world, hwritten, .inr ⟨.nameTooLong, rfl, rfl, rfl⟩⟩
  rw [if_neg hlong] at hwritten ⊢
  dsimp only at hwritten ⊢
  cases hfiles : world.files.write (world.historyPath.locate world.directory) text.toUTF8 with
  | error refused =>
    rw [hfiles] at hwritten
    have hrefused := isSome_refusal?_of_write hfiles
    obtain ⟨reason, hreason⟩ := Option.isSome_iff_exists.mp hrefused
    dsimp only at hwritten ⊢
    rw [hreason] at hwritten
    exact .inr ⟨_, world, hwritten, .inr ⟨refused, hrefused, rfl, rfl⟩⟩
  | ok files =>
    rw [hfiles] at hwritten
    refine .inr ⟨_, _, hwritten, .inl ⟨?_, _, _, rfl⟩⟩
    -- The path leads to the same place after the file has been written.
    have hsame (events : List Event) : World.locate { world with files, events }
        world.historyPath = .ok (world.historyPath.locate world.directory) := by
      unfold World.locate
      rw [if_neg hnull, if_neg hlong]
    rw [World.find, hsame]
    exact FileTree.find_of_write hfiles

/-- The history that a run is to be saved with, or what stops it. -/
def entriesToSave (report : Report) (id : Option String) (world : World) :
    Except Fault (List Value) := do
  let history ← (load.on world).1
  let moment ← Moment.ofMilliseconds world.clock
  let entries ← add (entry report id moment.isoText) history
  if Value.areWritable entries then .ok entries else .error .numeralTooLong

/-- A save writes what is to be saved. -/
theorem on_save (report : Report) (id : Option String) (world : World) :
    (save report id).on world =
      match entriesToSave report id world with
      | .error fault => (.error fault, world)
      | .ok entries =>
        on (orRefused world.historyPath (writeText world.historyPath (Value.array entries).pretty)
          >>= fun _ => pure ()) world := by
  have hok {α β : Type} (x : α) (f : α → Except Fault β) : Except.ok x >>= f = f x := rfl
  unfold save entriesToSave
  rw [on_bind, reads_load.on_eq world]
  cases (load.on world).1 with
  | error fault => rfl
  | ok history =>
    dsimp only
    rw [on_bind, on_get]
    dsimp only
    rw [on_bind, on_lift]
    cases Moment.ofMilliseconds world.clock with
    | error fault => rfl
    | ok moment =>
      dsimp only
      rw [on_bind, on_lift, hok, hok]
      cases add (entry report id moment.isoText) history with
      | error fault => rfl
      | ok entries =>
        rw [hok]
        dsimp only
        cases Value.areWritable entries <;> rfl

/-- A run is saved, unless something stops it, which leaves everything as it is. -/
theorem save_cases (report : Report) (id : Option String) (world : World) :
    (∃ fault, Stops report world fault ∧ (save report id).on world = (.error fault, world)) ∨
      ∃ after, IsSaved report id world after ∧ (save report id).on world = (.ok (), after) := by
  rw [on_save]
  cases hentries : entriesToSave report id world with
  | error fault =>
    refine .inl ⟨fault, ?_, rfl⟩
    rcases bind_eq_error_iff.mp hentries with hload | ⟨history, hload, hrest⟩
    · obtain rfl := load_error hload
      exact .tooDeep hload
    rcases bind_eq_error_iff.mp hrest with hclock | ⟨moment, hclock, hadd⟩
    · exact .clock hclock
    rcases bind_eq_error_iff.mp hadd with hlist | ⟨entries, hlist, hwrite⟩
    · cases history with
      | array old => cases hlist
      | _ => cases hlist; exact .noList hload nofun
    · cases history with
      | array old =>
        obtain rfl : entriesAfter report id moment old = entries := Except.ok.inj hlist
        rw [areWritable_entriesAfter hload] at hwrite
        split at hwrite <;> cases hwrite
        next hnumeral => exact .numeral (by simpa [or_iff_not_imp_left] using hnumeral)
      | _ => cases hlist
  | ok entries =>
    obtain ⟨history, hload, hrest⟩ := bind_eq_ok_iff.mp hentries
    obtain ⟨moment, hclock, hadd⟩ := bind_eq_ok_iff.mp hrest
    obtain ⟨added, hlist, hwrite⟩ := bind_eq_ok_iff.mp hadd
    cases history with
    | array old =>
      obtain rfl : entriesAfter report id moment old = added := Except.ok.inj hlist
      split at hwrite <;> cases hwrite
      dsimp only
      rw [on_bind]
      rcases write_cases (Value.array (entriesAfter report id moment old)).pretty world with
        ⟨hnull, hwritten⟩ | ⟨made, after, hwritten, hkept⟩
      · rw [hwritten]
        exact .inl ⟨_, .home hnull, rfl⟩
      · rw [hwritten]
        exact .inr ⟨after, ⟨old, moment, hload, hclock, hkept⟩, rfl⟩
    | _ => cases hlist

/-- A save that ends well has saved the run. -/
theorem isSaved_of_save (h : (save report id).on world = (.ok (), after)) :
    IsSaved report id world after := by
  rcases save_cases report id world with ⟨_, _, hstopped⟩ | ⟨_, hsaved, hdone⟩
  · rw [hstopped] at h
    cases h
  · rw [hdone] at h
    cases h
    exact hsaved

/-- A run can be saved in any list: its numbers have numerals, the clock is on the calendar, and a
path can lead to the home directory. -/
structure IsRecordable (report : Report) (world : World) : Prop where
  status : Text.isTooLong report.status = false
  duration : Text.isTooLong report.duration = false
  clock : (Moment.ofMilliseconds world.clock).isOk = true
  home : world.historyPath.text.contains '\x00' = false

/-- A run that can be recorded is saved where the history is a list. -/
theorem exists_on_save {old : List Value} (hload : (load.on world).1 = .ok (.array old))
    (h : IsRecordable report world) (id : Option String) :
    ∃ after, (save report id).on world = (.ok (), after) := by
  rcases save_cases report id world with ⟨fault, hstops, -⟩ | ⟨after, -, hsave⟩
  · cases hstops with
    | tooDeep hdeep =>
      rw [hload] at hdeep
      cases hdeep
    | noList hvalue hlist =>
      rw [hload] at hvalue
      exact absurd (Except.ok.inj hvalue).symm (hlist old)
    | clock hfault =>
      have hclock := h.clock
      rw [hfault] at hclock
      cases hclock
    | numeral hlong => simp [h.status, h.duration] at hlong
    | home hnull => simp [h.home] at hnull
  · exact ⟨after, hsave⟩

/-- A run that can be recorded is not saved where a directory stands in the place of the file. -/
theorem save_of_directory (hfind : world.find world.historyPath = .ok .directory)
    (h : IsRecordable report world) (id : Option String) :
    (save report id).on world = (.ok (), world) := by
  have hload : (load.on world).1 = .ok (.array []) :=
    load_of_no_file fun bytes => by rw [hfind]; exact nofun
  obtain ⟨names, hnames, hdirectory⟩ := bind_eq_ok_iff.mp hfind
  obtain ⟨_, hsave⟩ := exists_on_save hload h id
  rw [on_save] at hsave ⊢
  cases hentries : entriesToSave report id world with
  | error fault =>
    rw [hentries] at hsave
    cases hsave
  | ok entries =>
    obtain ⟨fault, hfault⟩ :=
      FileTree.write_of_directory hdirectory (Value.array entries).pretty.toUTF8
    obtain ⟨reason, hreason⟩ := Option.isSome_iff_exists.mp (isSome_refusal?_of_write hfault)
    dsimp only
    rw [on_bind, on_orRefused, on_writeText, hnames]
    dsimp only
    rw [hfault]
    dsimp only
    rw [hreason]
    rfl

/-- A history that is no list stops every run from being saved. -/
theorem save_of_not_list {history : Value} {moment : Moment}
    (hload : (load.on world).1 = .ok history) (hlist : ∀ entries, history ≠ .array entries)
    (hclock : Moment.ofMilliseconds world.clock = .ok moment) (report : Report)
    (id : Option String) : (save report id).on world = (.error .notAList, world) := by
  have hentries : entriesToSave report id world = .error .notAList := by
    unfold entriesToSave
    rw [hload, hclock]
    cases history with
    | array entries => exact absurd rfl (hlist entries)
    | _ => rfl
  rw [on_save, hentries]

end History

/-! ## A world with a history -/

/-- A quiet world with a history file in the home directory. -/
def World.recording (content : ByteArray) : World :=
  { World.quiet with
    home := ["home"]
    files := ⟨[(["home"], .directory), (["home", History.fileName], .file content)]⟩ }

/-- The history file is looked for in the home directory. -/
theorem World.locate_historyPath_of_home {world : World} (hhome : world.home = ["home"]) :
    world.locate world.historyPath = .ok ["home", History.fileName] := by
  have hpath : world.historyPath = ⟨"/", ["home", History.fileName]⟩ := by
    unfold historyPath homePath
    rw [hhome]
    decide +kernel
  rw [hpath]
  exact locate_of_text (by decide +kernel) (by decide +kernel)

/-- The history file is found for as long as the files stay the same. -/
theorem World.find_recording {content : ByteArray} {world : World}
    (hfiles : world.files = (recording content).files) (hhome : world.home = ["home"]) :
    world.find world.historyPath = .ok (.file content) := by
  rw [find, locate_historyPath_of_home hhome, hfiles]
  rfl

/-! ## A world without a home directory -/

/-- Where there is no home directory, the history file is looked for in the root. -/
theorem World.locate_historyPath_of_root {world : World} (hhome : world.home = []) :
    world.locate world.historyPath = .ok [History.fileName] := by
  have hpath : world.historyPath = ⟨"/", [History.fileName]⟩ := by
    unfold historyPath homePath
    rw [hhome]
    decide +kernel
  rw [hpath]
  exact locate_of_text (by decide +kernel) (by decide +kernel)

/-- A world without files where a history can be written. -/
theorem World.isWritableAt_of_root {world : World} (hhome : world.home = [])
    (hfiles : world.files = ⟨[]⟩) : world.IsWritableAt world.historyPath := by
  refine ⟨_, locate_historyPath_of_root hhome, fun content => ?_⟩
  rw [hfiles]
  exact ⟨_, rfl⟩

theorem World.find_of_root {world : World} (hhome : world.home = [])
    (hfiles : world.files = ⟨[]⟩) : world.find world.historyPath = .error .noSuchFile := by
  rw [find, locate_historyPath_of_root hhome, hfiles]
  rfl

end RequestScript
