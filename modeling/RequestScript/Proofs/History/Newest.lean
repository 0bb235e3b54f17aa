import RequestScript.Proofs.History
import RequestScript.Proofs.Script.Credentials
import RequestScript.Proofs.World.Moves

/-!
# The newest runs

Each save reads the history file, puts an entry before those that it holds, cuts them to the limit
and writes them. What is cut does not come back, so after any number of saves the file holds the
newest entries of all that were saved and of those that there were before.
-/

namespace RequestScript

open RequestScript.Action

theorem World.Writes.historyPath_eq {world after : World} (h : World.Writes world after) :
    after.historyPath = world.historyPath := by
  obtain ⟨_, _, rfl, _⟩ := h
  rfl

namespace History

variable {report : Report} {id : Option String} {world start before after : World}
  {old : List Value}

/-! ## What a history file holds -/

/-- The history file is missing, or holds a list of entries. -/
inductive Holds (world : World) : List Value → Prop where
  | missing (hfind : world.find world.historyPath = .error .noSuchFile) : Holds world []
  | list {bytes : ByteArray} {text : String} {entries : List Value}
      (hfind : world.find world.historyPath = .ok (.file bytes))
      (htext : textOfBytes bytes = .ok text)
      (hentries : Value.ofJson Depth.limit text.toList = .ok (.array entries)) :
      Holds world entries

theorem Holds.load_eq (h : Holds world old) : (load.on world).1 = .ok (.array old) := by
  cases h with
  | missing hfind => exact load_of_missing hfind
  | list hfind htext hentries =>
    rw [load_of_find hfind htext, ofText, Value.read, hentries]
    rfl

/-- Nothing but what stands at the path of the file matters. -/
theorem Holds.of_find_eq (h : Holds world old)
    (hsame : start.find start.historyPath = world.find world.historyPath) : Holds start old := by
  cases h with
  | missing hfind => exact .missing (hsame.trans hfind)
  | list hfind htext hentries => exact .list (hsame.trans hfind) htext hentries

/-- Entries are in a file, which can be written. -/
theorem Holds.isWritableAt (h : Holds world old) (hentries : old ≠ []) :
    world.IsWritableAt world.historyPath := by
  cases h with
  | missing => exact absurd rfl hentries
  | list hfind => exact World.isWritableAt_of_find hfind

theorem Holds.isReadableWithin (h : Holds world old) :
    ∀ item ∈ old, item.IsReadableWithin (Depth.limit - 1) := by
  cases h with
  | missing => exact List.forall_mem_nil _
  | list _ _ hentries =>
    obtain ⟨hreadable, hdepth⟩ := Value.readable_of_ofJson hentries
    exact fun item hitem => ⟨hreadable.inside item hitem,
      Value.depthOfItems_le_iff.mp (Nat.le_of_succ_le_succ hdepth) item hitem⟩

/-! ## Entries -/

theorem isReadableWithin_string (text : String) (room : Nat) :
    (Value.string text).IsReadableWithin room :=
  ⟨Value.every_string_iff.mpr trivial, Nat.zero_le _⟩

theorem isReadableWithin_int {n : Int} (h : Text.isTooLong n = false) (room : Nat) :
    (Value.int n).IsReadableWithin room :=
  ⟨.intro h (List.forall_mem_nil _), Nat.zero_le _⟩

theorem isReadableWithin_ofStrings {table : Table String} (h : (Table.names table).Nodup)
    (room : Nat) : (Value.ofStrings table).IsReadableWithin (room + 1) :=
  Value.isReadableWithin_object (by rwa [Table.names_mapValues])
    (List.forall_mem_map.mpr fun entry _ => isReadableWithin_string entry.2 room)

theorem isReadableWithin_ofVerdict (verdict : Assertion.Verdict) (room : Nat) :
    (ofVerdict verdict).IsReadableWithin (room + 1) := by
  refine Value.isReadableWithin_object (by simp [Table.names]) (List.forall_mem_cons.mpr ⟨?_, ?_⟩)
  · exact isReadableWithin_string verdict.label room
  · exact List.forall_mem_singleton.mpr ⟨.intro trivial (List.forall_mem_nil _), Nat.zero_le _⟩

/-- The fields of an entry have distinct names, whichever are left out. -/
theorem nodup_names_entry {report : Report} {id : Option String} {timestamp : String}
    {fields : Table Value} (h : entry report id timestamp = .object fields) :
    (Table.names fields).Nodup := by
  have hoptional (name : String) (value : Value) :
      (Table.names (optionalField name value)).Sublist [name] := by
    unfold optionalField
    split
    · exact .refl _
    · exact List.nil_sublist _
  obtain rfl := Value.object.inj h
  simp only [Table.names_append]
  have hall : List.Nodup (["method", "url", "status", "duration_ms", "timestamp"] ++ ["name"] ++
      ["id"] ++ ["headers"] ++ ["assertions"]) := by decide
  refine hall.sublist ?_
  exact ((((List.Sublist.refl _).append (hoptional "name" _)).append (hoptional "id" _)).append
    (hoptional "headers" _)).append (hoptional "assertions" _)

/-- An entry is read as it is written. -/
theorem isReadableWithin_entry (hheaders : (Table.names report.requestHeaders).Nodup)
    (hstatus : Text.isTooLong report.status = false)
    (hduration : Text.isTooLong report.duration = false) (id : Option String)
    (timestamp : String) : (entry report id timestamp).IsReadableWithin 3 := by
  have htext (text : Option String) : (ofText? text).IsReadableWithin 2 := by
    cases text with
    | none => exact ⟨.intro trivial (List.forall_mem_nil _), Nat.zero_le _⟩
    | some text => exact isReadableWithin_string text 2
  have hkept : (Table.names (keptHeaders report.requestHeaders)).Nodup :=
    hheaders.sublist (List.filter_sublist.map _)
  have hverdicts : (Value.array (report.verdicts.map ofVerdict)).IsReadableWithin 2 :=
    Value.isReadableWithin_array (List.forall_mem_map.mpr fun verdict _ =>
      isReadableWithin_ofVerdict verdict 0)
  refine Value.isReadableWithin_object (nodup_names_entry rfl) ?_
  simp only [List.forall_mem_append]
  refine ⟨⟨⟨⟨?_, forall_mem_optionalField (htext report.name)⟩,
    forall_mem_optionalField (htext id)⟩,
    forall_mem_optionalField (isReadableWithin_ofStrings hkept 1)⟩,
    forall_mem_optionalField hverdicts⟩
  simp only [List.forall_mem_cons]
  exact ⟨isReadableWithin_string _ 2, isReadableWithin_string _ 2,
    isReadableWithin_int hstatus 2, isReadableWithin_int hduration 2,
    isReadableWithin_string _ 2, List.forall_mem_nil _⟩

theorem get?_optionalField_of_ne {name other : String} (value : Value) (h : other ≠ name) :
    Table.get? (optionalField name value) other = none := by
  unfold optionalField
  split
  · rw [Table.get?, if_neg h.symm, Table.get?]
  · rfl

/-- A field that is left out stands for a value that says nothing. -/
theorem getD_optionalField (name : String) {value nothing : Value}
    (h : value.isGiven = false → value = nothing) :
    (Table.get? (optionalField name value) name).getD nothing = value := by
  unfold optionalField
  split
  · rw [Table.get?, if_pos rfl, Option.getD_some]
  · next hgiven => exact (h (by simpa using hgiven)).symm

/-- What an entry says about the request headers and the assertions of a run. A field that is left
out stands for none. -/
theorem exists_fields_entry (report : Report) (id : Option String) (timestamp : String) :
    ∃ fields, entry report id timestamp = .object fields ∧
      (Table.get? fields "headers").getD (.object []) = .ofStrings
        (List.filter (fun header => ¬ Headers.IsCredential header.1) report.requestHeaders) ∧
      (Table.get? fields "assertions").getD (.array []) = .array (report.verdicts.map fun verdict =>
        .object [("label", .string verdict.label), ("pass", .bool verdict.passed)]) := by
  have hkept : keptHeaders report.requestHeaders =
      List.filter (fun header => ¬ Headers.IsCredential header.1) report.requestHeaders :=
    List.filter_congr fun header _ => (decide_not).symm
  refine ⟨_, rfl, ?_, ?_⟩
  · rw [← hkept, Table.get?_append, Table.get?_append, Table.get?_append, Table.get?_append,
      get?_optionalField_of_ne _ (by decide : "headers" ≠ "name"),
      get?_optionalField_of_ne _ (by decide : "headers" ≠ "id"),
      get?_optionalField_of_ne _ (by decide : "headers" ≠ "assertions"), Option.or_none]
    refine getD_optionalField "headers" fun hnone => ?_
    have hempty : (keptHeaders report.requestHeaders).mapValues Value.string = [] := by
      simpa [Value.ofStrings, Value.isGiven] using hnone
    rw [Value.ofStrings, hempty]
  · rw [Table.get?_append, Table.get?_append, Table.get?_append, Table.get?_append,
      get?_optionalField_of_ne _ (by decide : "assertions" ≠ "name"),
      get?_optionalField_of_ne _ (by decide : "assertions" ≠ "id"),
      get?_optionalField_of_ne _ (by decide : "assertions" ≠ "headers")]
    refine getD_optionalField "assertions" fun hnone => ?_
    have hempty : report.verdicts.map ofVerdict = [] := by
      simpa [Value.isGiven] using hnone
    rw [hempty]

/-! ## One save -/

theorem writes_save (report : Report) (id : Option String) :
    Moves World.Writes (save report id) := by
  intro world
  rw [on_save]
  split
  · exact Std.Refl.refl world
  · exact ((moves_orRefused _ (writes_writeText _ _)).bind fun _ => .pure _) world

/-- A run that is saved has numerals. -/
theorem not_isTooLong_of_save (hold : Holds world old)
    (hsave : (save report id).on world = (.ok (), after)) :
    Text.isTooLong report.status = false ∧ Text.isTooLong report.duration = false := by
  rw [on_save] at hsave
  cases hentries : entriesToSave report id world with
  | error fault =>
    rw [hentries] at hsave
    cases hsave
  | ok entries =>
    obtain ⟨history, hload, hrest⟩ := bind_eq_ok_iff.mp hentries
    obtain rfl : .array old = history := Except.ok.inj (hold.load_eq.symm.trans hload)
    obtain ⟨moment, -, hadd⟩ := bind_eq_ok_iff.mp hrest
    obtain ⟨added, hlist, hwrite⟩ := bind_eq_ok_iff.mp hadd
    obtain rfl : entriesAfter report id moment old = added := Except.ok.inj hlist
    rw [areWritable_entriesAfter hload] at hwrite
    split at hwrite
    · next hnumerals => simpa using hnumerals
    · cases hwrite

/-- **A save puts its entry first** and keeps what fits behind it. -/
theorem Holds.of_save (hold : Holds world old)
    (hheaders : (Table.names report.requestHeaders).Nodup)
    (hsave : (save report id).on world = (.ok (), after)) (hwrote : world.Wrote after) :
    ∃ moment, Moment.ofMilliseconds world.clock = .ok moment ∧
      Holds after (entriesAfter report id moment old) := by
  obtain ⟨hstatus, hduration⟩ := not_isTooLong_of_save hold hsave
  obtain ⟨found, moment, hload, hclock, hfound⟩ := isSaved_of_save hsave
  obtain rfl : old = found := Value.array.inj (Except.ok.inj (hold.load_eq.symm.trans hload))
  have hhome : after.historyPath = world.historyPath := by
    have hwrites := (writes_save report id world).historyPath_eq
    rwa [hsave] at hwrites
  rcases hfound with ⟨hfind, -⟩ | ⟨_, -, -, rfl⟩
  · have hreadable : (Value.array (entriesAfter report id moment old)).IsReadableWithin
        (Depth.limit - 1 + 1) := by
      refine Value.isReadableWithin_array (List.forall_mem_cons.mpr ⟨?_, fun item hitem => ?_⟩)
      · obtain ⟨hentry, hdepth⟩ :=
          isReadableWithin_entry hheaders hstatus hduration id moment.isoText
        exact ⟨hentry, Nat.le_trans hdepth (by decide)⟩
      · exact hold.isReadableWithin item (List.mem_of_mem_take hitem)
    exact ⟨moment, hclock, .list (hhome ▸ hfind) (textOfBytes_pretty _) (ofJson_pretty hreadable)⟩
  · obtain ⟨_, _, hevents⟩ := hwrote
    exact absurd hevents.symm (List.cons_ne_self _ _)

/-- A save leaves a list in the history file, also where the file system refuses it. -/
theorem Holds.exists_holds_of_save (hold : Holds world old)
    (hheaders : (Table.names report.requestHeaders).Nodup)
    (hsave : (save report id).on world = (.ok (), after)) : ∃ kept, Holds after kept := by
  obtain ⟨_, _, _, _, ⟨-, hwrote⟩ | ⟨_, -, -, rfl⟩⟩ := isSaved_of_save hsave
  · obtain ⟨moment, -, hholds⟩ := hold.of_save hheaders hsave hwrote
    exact ⟨_, hholds⟩
  · exact ⟨old, hold⟩

/-- Where the history file can be written, a run that can be recorded is written to it. -/
theorem Holds.exists_save (hold : Holds world old) (h : IsRecordable report world)
    (hwritable : world.IsWritableAt world.historyPath) (id : Option String) :
    ∃ after, (save report id).on world = (.ok (), after) ∧ world.Wrote after := by
  obtain ⟨after, hsave⟩ := exists_on_save hold.load_eq h id
  refine ⟨after, hsave, ?_⟩
  obtain ⟨_, _, _, _, ⟨-, hwrote⟩ | ⟨refused, -, hwritten, -⟩⟩ := isSaved_of_save hsave
  · exact hwrote
  · obtain ⟨names, hnames, hfiles⟩ := hwritable
    obtain ⟨files, hfiles⟩ := hfiles _
    rw [on_writeText, hnames] at hwritten
    dsimp only at hwritten
    rw [hfiles] at hwritten
    cases hwritten

theorem IsRecordable.of_writes (h : IsRecordable report world)
    (hwrites : World.Writes world after) :
    IsRecordable report after := by
  obtain ⟨_, _, rfl, _⟩ := hwrites
  exact ⟨h.status, h.duration, h.clock, h.home⟩

/-! ## A sequence of saves -/

/-- A finished run that is saved at a moment. -/
structure Saved where
  report : Report
  /-- The identifier of the request. -/
  id : Option String
  moment : Moment
  nodup_headers : (Table.names report.requestHeaders).Nodup

/-- The entry for a saved run. -/
def Saved.entry (run : Saved) : Value :=
  History.entry run.report run.id run.moment.isoText

/-- Runs are saved one after another, the last of them first in the list. Whatever else happens in
between, nobody else writes the history file. -/
inductive Saves (world : World) : List Saved → World → Prop where
  | nil : Saves world [] world
  | cons {run : Saved} {runs : List Saved} {before start after : World}
      (h : Saves world runs before)
      (hsame : start.find start.historyPath = before.find before.historyPath)
      (hclock : Moment.ofMilliseconds start.clock = .ok run.moment)
      (hsave : (save run.report run.id).on start = (.ok (), after))
      (hwrote : start.Wrote after) : Saves world (run :: runs) after

/-- What is cut does not come back: the file holds as much of all entries as it can. -/
theorem Saves.exists_holds {runs : List Saved} (h : Saves world runs after)
    (hold : Holds world old) :
    ∃ kept, Holds after kept ∧ kept.take limit = (runs.map Saved.entry ++ old).take limit ∧
      (runs ≠ [] ∨ old.length ≤ limit → kept.length ≤ limit) := by
  induction h with
  | nil => exact ⟨old, hold, rfl, fun hlimit => hlimit.resolve_left (absurd rfl)⟩
  | @cons run runs before start after _ hsame hclock hsave hwrote ih =>
    obtain ⟨kept, hkept, htake, -⟩ := ih
    obtain ⟨moment, hmoment, hsaved⟩ :=
      (hkept.of_find_eq hsame).of_save run.nodup_headers hsave hwrote
    obtain rfl : run.moment = moment := Except.ok.inj (hclock.symm.trans hmoment)
    -- What an earlier save cut off would be cut off now.
    have hless : kept.take (limit - 1) = (runs.map Saved.entry ++ old).take (limit - 1) := by
      have h := congrArg (List.take (limit - 1)) htake
      rwa [List.take_take, List.take_take] at h
    refine ⟨_, hsaved, ?_, fun _ => ?_⟩
    · calc (run.entry :: kept.take (limit - 1)).take limit
          = run.entry :: (kept.take (limit - 1)).take (limit - 1) := rfl
        _ = run.entry :: (runs.map Saved.entry ++ old).take (limit - 1) := by
            rw [List.take_take, Nat.min_self, hless]
        _ = ((run :: runs).map Saved.entry ++ old).take limit := rfl
    · exact Nat.succ_le_succ (List.length_take_le _ _)

theorem Saves.holds {runs : List Saved} (h : Saves world runs after) (hold : Holds world old)
    (hlimit : runs ≠ [] ∨ old.length ≤ limit) :
    Holds after ((runs.map Saved.entry ++ old).take limit) := by
  obtain ⟨kept, hkept, htake, hlength⟩ := h.exists_holds hold
  rwa [← htake, List.take_of_length_le (hlength hlimit)]

/-- **The history file holds the newest entries**: those of the runs that have been saved, the last
one first, and then those that there were, up to the limit. No entry has a header that authorises,
and each has one label and result for each assertion, in order. The next run that can be recorded
is saved as well, and written where a run has been written before. -/
theorem holds_of_saves {runs : List Saved} (hold : Holds world old) (h : Saves world runs after)
    (hlimit : runs ≠ [] ∨ old.length ≤ limit) :
    Holds after ((runs.map Saved.entry ++ old).take limit) ∧
      (∀ run ∈ runs, ∃ fields, run.entry = .object fields ∧
        (Table.get? fields "headers").getD (.object []) = .ofStrings
          (List.filter (fun header => ¬ Headers.IsCredential header.1) run.report.requestHeaders) ∧
        (Table.get? fields "assertions").getD (.array []) =
          .array (run.report.verdicts.map fun verdict =>
            .object [("label", .string verdict.label), ("pass", .bool verdict.passed)])) ∧
      ∀ report id now, now.find now.historyPath = after.find after.historyPath →
        IsRecordable report now → ∃ saved, (save report id).on now = (.ok (), saved) ∧
          (runs ≠ [] → now.Wrote saved) := by
  have hholds := h.holds hold hlimit
  refine ⟨hholds, fun run _ => exists_fields_entry run.report run.id run.moment.isoText,
    fun report id now hsame hrecordable => ?_⟩
  have hnow := hholds.of_find_eq hsame
  cases runs with
  | nil =>
    obtain ⟨saved, hsave⟩ := exists_on_save hnow.load_eq hrecordable id
    exact ⟨saved, hsave, fun hnone => absurd rfl hnone⟩
  | cons run runs =>
    have hwritable := hnow.isWritableAt (List.cons_ne_nil _ _)
    obtain ⟨saved, hsave, hwrote⟩ := hnow.exists_save hrecordable hwritable id
    exact ⟨saved, hsave, fun _ => hwrote⟩

/-- A run with a header that authorises, and two assertions. -/
def guardedRun : Saved where
  report :=
    { method := "GET"
      url := "/"
      requestHeaders := [("AUTHORIZATION", "a"), ("Accept", "b")]
      verdicts := [⟨"status == 200", true⟩, ⟨"$.x == 1", false⟩] }
  id := none
  moment := ⟨⟨1970, 1, 1⟩, 0, 0, 0, 0⟩
  nodup_headers := by decide

/-- The same run is saved twice in a history that holds a number. -/
theorem holds_of_saves_guardedRun :
    ∃ after fields, Holds after [.object fields, .object fields, .int 7] ∧
      (Table.get? fields "headers").getD (.object []) = .ofStrings [("Accept", "b")] ∧
      (Table.get? fields "assertions").getD (.array []) =
        .array [.object [("label", .string "status == 200"), ("pass", .bool true)],
          .object [("label", .string "$.x == 1"), ("pass", .bool false)]] := by
  let world := World.recording "[7]".toUTF8
  have hfind : world.find world.historyPath = .ok (.file "[7]".toUTF8) :=
    World.find_recording rfl rfl
  have hold : Holds world [.int 7] :=
    .list hfind (by decide +kernel : textOfBytes "[7]".toUTF8 = .ok "[7]") rfl
  have hrecordable : IsRecordable guardedRun.report world :=
    ⟨by decide +kernel, by decide +kernel, by decide +kernel,
      World.contains_eq_false_of_locate (World.locate_historyPath_of_home rfl)⟩
  obtain ⟨between, hfirst, hwrote⟩ :=
    hold.exists_save hrecordable (World.isWritableAt_of_find hfind) guardedRun.id
  have hwrites := writes_save guardedRun.report guardedRun.id world
  rw [hfirst] at hwrites
  have hclock : between.clock = 0 := by
    obtain ⟨_, _, rfl, _⟩ := hwrites
    rfl
  have hmoment : Moment.ofMilliseconds 0 = .ok guardedRun.moment := by decide +kernel
  have hsaves : Saves world [guardedRun] between := .cons .nil rfl hmoment hfirst hwrote
  have hbetween := hsaves.holds hold (.inl (List.cons_ne_nil _ _))
  obtain ⟨after, hsecond, hagain⟩ := hbetween.exists_save (hrecordable.of_writes hwrites)
    (hbetween.isWritableAt (List.cons_ne_nil _ _)) guardedRun.id
  obtain ⟨hholds, hentries, -⟩ := holds_of_saves hold
    (.cons hsaves rfl (by rw [hclock, hmoment]) hsecond hagain) (.inl (List.cons_ne_nil _ _))
  obtain ⟨fields, hfields, hheaders, hassertions⟩ := hentries guardedRun List.mem_cons_self
  refine ⟨after, fields, ?_, ?_, hassertions⟩
  · rw [← hfields]
    exact hholds
  · rw [hheaders]
    exact congrArg Value.ofStrings (by decide +kernel)

end History

end RequestScript
