import RequestScript.Proofs.Variables.EnvironmentFile
import RequestScript.Proofs.World.Places

/-!
# Files in step with the memory

A layer with a file is written after each change of it, and an environment file after each change
of a set or of the active one. So what is opened again is at every moment what the run has in
memory, whichever changes there have been.
-/

namespace RequestScript

open RequestScript.Action

/-- A file that has been written can be written again. -/
theorem exists_writeEntries_again {path : Path} {entries more : Table Value}
    {world between : World} (hentries : (Value.object entries).IsReadable)
    (h : (writeEntries path entries).on world = (.ok (), between)) (hwrote : world.Wrote between)
    (hparts : path.parts ≠ []) (hroom : (Value.object more).depth ≤ world.room) :
    ∃ after, (writeEntries path more).on between = (.ok (), after) ∧ between.Wrote after := by
  have hsame := (writes_writeEntries path entries world).keeps.samePlaces.room_eq
  rw [h] at hsame
  exact exists_writeEntries (readEntries_of_writeEntries hentries h hwrote).1 hparts
    (hsame ▸ hroom)

/-! ## Layers -/

namespace Layer

/-- A change of a layer. -/
inductive Change where
  /-- A variable is set to a text. -/
  | set (name text : String)
  /-- Texts of distinct names take the place of all variables. -/
  | replace (texts : Table String) (hnames : (Table.names texts).Nodup)
  /-- All variables are dropped. -/
  | clear

/-- The layer after a change. -/
def changed (layer : Layer) : Change → Layer
  | .set name text => layer.set name (.string text)
  | .replace texts _ => { layer with entries := texts.mapValues .string }
  | .clear => { layer with entries := [] }

/-- A layer and the world in which the last one of some changes has been written. What happens in
the world in between makes no difference, as the whole layer is written. -/
inductive Changes (opened : Layer) : Layer → World → Prop where
  | first {change : Change} {start after : World}
      (hsave : (opened.changed change).save.on start = (.ok (), after))
      (hwrote : start.Wrote after) : Changes opened (opened.changed change) after
  | next {layer : Layer} {before : World} (h : Changes opened layer before) {change : Change}
      {start after : World} (hsave : (layer.changed change).save.on start = (.ok (), after))
      (hwrote : start.Wrote after) : Changes opened (layer.changed change) after

/-- The layer is kept in a file, from which it can be read. -/
structure IsKeptIn (layer : Layer) (path : Path) : Prop where
  file_eq : layer.file = some path
  isReadable : (Value.object layer.entries).IsReadable

variable {opened layer : Layer} {path : Path} {world loaded saved after : World}

theorem isKeptIn_load (h : (load path).on world = (.ok opened, loaded)) :
    opened.IsKeptIn path := by
  obtain ⟨entries, between, hread, hopened⟩ := on_bind_ok h
  cases hopened
  exact ⟨rfl, isReadable_of_readEntries hread⟩

theorem IsKeptIn.changed (h : layer.IsKeptIn path) (change : Change) :
    (layer.changed change).IsKeptIn path := by
  refine ⟨by cases change <;> exact h.file_eq, ?_⟩
  cases change with
  | set name text =>
    exact h.isReadable.object_set (Value.every_string_iff.mpr trivial)
      (Table.nodup_set h.isReadable.here _ _)
  | replace texts hnames =>
    have hsame : (Table.names (texts.mapValues Value.string)).Nodup := by
      rwa [Table.names_mapValues]
    exact Value.every_object_iff.mpr ⟨hsame, List.forall_mem_map.mpr fun entry _ =>
      Value.every_string_iff.mpr trivial⟩
  | clear => exact Value.every_object_iff.mpr ⟨List.nodup_nil, nofun⟩

/-- A layer that is written is the same when it is opened again. -/
theorem load_of_save (h : layer.IsKeptIn path) (hsave : layer.save.on world = (.ok (), saved))
    (hwrote : world.Wrote saved) : (load path).on saved = (.ok layer, saved) := by
  obtain ⟨entries, file⟩ := layer
  obtain rfl : file = some path := h.file_eq
  obtain ⟨hfind, hentries⟩ := readEntries_of_writeEntries h.isReadable hsave hwrote
  unfold load
  rw [on_bind, on_readEntries_of_file hfind hentries]
  rfl

theorem Changes.isKeptIn (h : Changes opened layer after) (hopened : opened.IsKeptIn path) :
    layer.IsKeptIn path := by
  induction h with
  | first => exact hopened.changed _
  | next _ _ _ ih => exact ih.changed _

/-- **A layer is the same when its file is opened again**, after any changes the last one of which
has just been written. -/
theorem load_of_changes (hload : (load path).on world = (.ok opened, loaded))
    (h : Changes opened layer after) : (load path).on after = (.ok layer, after) := by
  have hopened := isKeptIn_load hload
  cases h with
  | first hsave hwrote => exact load_of_save (hopened.changed _) hsave hwrote
  | next hbefore hsave hwrote =>
    exact load_of_save ((hbefore.isKeptIn hopened).changed _) hsave hwrote

/-- A quotation mark, a control character and one that takes two halves are read as they were
written, and a name that is set again keeps its place. -/
theorem load_of_changes_escaped :
    ∃ layer after, layer.entries = [("a", .string "\"\x01"), ("\n😀", .string "\\")] ∧
      (load ⟨"", ["rext.env.json"]⟩).on after = (.ok layer, after) := by
  let opened : Layer := { entries := [("a", .string "1")], file := some ⟨"", ["rext.env.json"]⟩ }
  let first := opened.changed (.set "\n😀" "\\")
  let second := first.changed (.set "a" "\"\x01")
  have hreadable : (Value.object opened.entries).IsReadableWithin Depth.limit := by
    refine ⟨?_, by decide +kernel⟩
    simp [opened, Value.IsReadable, Value.every_object_iff, Value.every_string_iff,
      Value.IsReadableHere, Table.names]
  have hfind : World.find (World.holding opened.entries) ⟨"", ["rext.env.json"]⟩ =
      .ok (.file (Value.object opened.entries).pretty.toUTF8) := World.find_holding _ {}
  have hload : (load ⟨"", ["rext.env.json"]⟩).on (World.holding opened.entries) =
      (.ok opened, World.holding opened.entries) := by
    unfold load
    rw [on_bind, on_readEntries_of_file hfind (entriesWithin_pretty hreadable)]
    rfl
  have hkept := isKeptIn_load hload
  obtain ⟨between, hfirst, hwrote⟩ : ∃ between, first.save.on (World.holding opened.entries) =
      (.ok (), between) ∧ (World.holding opened.entries).Wrote between :=
    exists_writeEntries hfind (by decide) (by decide +kernel)
  obtain ⟨after, hsecond, hagain⟩ : ∃ after, second.save.on between = (.ok (), after) ∧
      between.Wrote after :=
    exists_writeEntries_again (hkept.changed _).isReadable hfirst hwrote (by decide)
      (by decide +kernel)
  have hentries : second.entries = [("a", .string "\"\x01"), ("\n😀", .string "\\")] := by
    simp [second, first, opened, changed, Layer.set, Table.set]
  exact ⟨second, after, hentries,
    load_of_changes hload (.next (.first hfirst hwrote) hsecond hagain)⟩

end Layer

/-! ## Environment files -/

/-- What is read is read again, as reading does no more than log. -/
theorem readEntries_again {path : Path} {world loaded : World} {entries : Table Value}
    (h : (readEntries path).on world = (.ok entries, loaded)) :
    ((readEntries path).on loaded).1 = .ok entries := by
  have hfirst := (on_readEntries path world).1
  have hlogs := (on_readEntries path world).2
  rw [h] at hfirst hlogs
  obtain ⟨logged, rfl, -⟩ := hlogs
  rw [(on_readEntries path _).1]
  exact hfirst.symm

namespace EnvironmentFile

variable {opened file changed : EnvironmentFile} {path : Path} {world loaded now after : World}

/-- One call that may change an environment file, and is written where it does. -/
inductive Step (file : EnvironmentFile) (start : World) : EnvironmentFile → World → Prop where
  /-- Without a set to put it in, a variable is left alone. -/
  | leaves {name text : String} (h : file.setVariable? name text = .ok none) :
      Step file start file start
  | setsVariable {name text : String} {changed : EnvironmentFile} {after : World}
      (h : file.setVariable? name text = .ok (some changed))
      (hsave : changed.save.on start = (.ok (), after)) (hwrote : start.Wrote after) :
      Step file start changed after
  | setsActive {name : String} {after : World} (hname : name ≠ "")
      (hsave : (file.setActive name).save.on start = (.ok (), after))
      (hwrote : start.Wrote after) : Step file start (file.setActive name) after

/-- Where a sequence of calls leads from an environment file that has been opened. -/
inductive Reaches (opened : EnvironmentFile) (start : World) : EnvironmentFile → World → Prop where
  | refl : Reaches opened start opened start
  | step {file changed : EnvironmentFile} {now after : World} (h : Reaches opened start file now)
      (hstep : Step file now changed after) : Reaches opened start changed after

/-- The marker of the active set is no set, whatever it holds. -/
theorem namesOf_set_activeKey (content : Table Value) (value : Value) :
    namesOf (Table.set content activeKey value) = namesOf content := by
  have hcons (entry : String × Value) (rest : Table Value) :
      namesOf (entry :: rest) = namesOf [entry] ++ namesOf rest := namesOf_append [entry] rest
  have hmarker (value : Value) : namesOf [(activeKey, value)] = [] := rfl
  induction content with
  | nil => exact hmarker value
  | cons entry rest ih =>
    obtain ⟨key, old⟩ := entry
    rw [Table.set]
    split
    · next hkey =>
      rw [hkey, hcons, hcons (activeKey, old), hmarker, hmarker]
    · rw [hcons, hcons _ rest, ih]

/-- A text is the name of the active set, unless the marker holds something else. -/
theorem exists_active_of_marker (hopened : file.IsOpened)
    (hmarker : ∀ value, Table.get? file.content activeKey = some value →
      ∃ name, value = .string name) : ∃ name, file.active = .string name := by
  have hfile := congrArg EnvironmentFile.active hopened.ofContent_eq
  rw [← hfile]
  simp only [ofContent]
  split
  · next hgiven =>
    cases hvalue : Table.get? file.content activeKey with
    | none =>
      rw [hvalue] at hgiven
      cases hgiven
    | some value => exact hmarker value hvalue
  · exact ⟨_, rfl⟩

/-- Where a text is the name of the active set, setting a variable either finds the set or leaves
the file alone. -/
theorem setVariable?_cases {active : String} (hactive : file.active = .string active)
    (name text : String) : file.setVariable? name text = .ok none ∨
      ∃ fields, file.HasActiveSet active fields := by
  by_cases hname : active = ""
  · have hnone : file.active.isGiven = false := by simp [hactive, hname, Value.isGiven]
    exact .inl (by rw [setVariable?, hnone]; rfl)
  have hgiven : file.active.isGiven = true := by simpa [hactive, Value.isGiven] using hname
  have hlookup : file.lookup file.active = .ok (Table.get? file.content active) := by
    rw [hactive]
    rfl
  cases hfound : Table.get? file.content active with
  | none => exact .inl (by rw [setVariable?, hgiven, hlookup, hfound]; rfl)
  | some value =>
    cases value with
    | object fields => exact .inr ⟨fields, hactive, hname, hfound⟩
    | _ => exact .inl (by rw [setVariable?, hgiven, hlookup, hfound]; rfl)

/-- The file that is opened again is the one in memory, whose active set a text names. -/
structure IsInStep (file : EnvironmentFile) (now : World) : Prop where
  isOpened : file.IsOpened
  exists_active : ∃ name, file.active = .string name
  load_eq : ((load file.path).on now).1 = .ok file

/-- What a call can do: leave everything alone, set a variable in the active set, or make another
set the active one. A file that changes is written. -/
theorem Step.changes (h : Step file now changed after) (hfile : file.IsInStep now) :
    (changed = file ∧ after = now) ∨
      ((∃ active fields inner, file.HasActiveSet active fields ∧
            (Value.object inner).IsReadable ∧ changed = file.withSet active inner) ∨
          ∃ name, name ≠ "" ∧ changed = file.setActive name) ∧
        changed.save.on now = (.ok (), after) ∧ now.Wrote after := by
  cases h with
  | leaves => exact .inl ⟨rfl, rfl⟩
  | setsVariable hset hsave hwrote =>
    obtain ⟨active, hactive⟩ := hfile.exists_active
    rcases setVariable?_cases hactive _ _ with hnone | ⟨fields, hactive⟩
    · rw [hnone] at hset
      cases hset
    · rw [hactive.setVariable?_eq] at hset
      cases hset
      exact .inr ⟨.inl ⟨active, fields, _, hactive,
        (hfile.isOpened.isReadable_set hactive).setNested _ _, rfl⟩, hsave, hwrote⟩
  | setsActive hname hsave hwrote => exact .inr ⟨.inr ⟨_, hname, rfl⟩, hsave, hwrote⟩

theorem isInStep_load (hload : (load path).on world = (.ok opened, loaded))
    (hmarker : ∀ value, Table.get? opened.content activeKey = some value →
      ∃ name, value = .string name) : opened.path = path ∧ opened.IsInStep loaded := by
  obtain ⟨hpath, hopened⟩ := isOpened_load hload
  refine ⟨hpath, hopened, exists_active_of_marker hopened hmarker, ?_⟩
  obtain ⟨entries, between, hread, hfile⟩ := on_bind_ok hload
  cases hfile
  have hagain := readEntries_again hread
  change ((load path).on loaded).1 = _
  unfold load
  rw [on_bind]
  rcases hnext : (readEntries path).on loaded with ⟨_ | found, last⟩ <;> rw [hnext] at hagain <;>
    cases hagain
  rfl

/-- A call leaves the file in step. -/
theorem Step.isInStep (h : Step file now changed after) (hfile : file.IsInStep now) :
    changed.path = file.path ∧ changed.IsInStep after := by
  rcases h.changes hfile with ⟨rfl, rfl⟩ | ⟨hchanged, hsave, hwrote⟩
  · exact ⟨rfl, hfile⟩
  have hopened : changed.path = file.path ∧ changed.IsOpened ∧
      ∃ name, changed.active = .string name := by
    rcases hchanged with ⟨active, fields, inner, hactive, hinner, rfl⟩ | ⟨name, hname, rfl⟩
    · exact ⟨rfl, hfile.isOpened.withSet hactive hinner, active, hactive.active_eq⟩
    · exact ⟨rfl, hfile.isOpened.setActive hname, name, rfl⟩
  obtain ⟨hpath, hisOpened, hactive⟩ := hopened
  exact ⟨hpath, hisOpened, hactive, congrArg Prod.fst (load_of_save hisOpened hsave hwrote)⟩

theorem Reaches.isInStep (h : Reaches opened loaded file now) (hopened : opened.IsInStep loaded) :
    file.path = opened.path ∧ file.IsInStep now := by
  induction h with
  | refl => exact ⟨rfl, hopened⟩
  | step _ hstep ih =>
    obtain ⟨hpath, hfile⟩ := hstep.isInStep ih.2
    exact ⟨hpath.trans ih.1, hfile⟩

theorem Step.names_eq (h : Step file now changed after) (hfile : file.IsInStep now) :
    changed.names = file.names := by
  rcases h.changes hfile with ⟨rfl, -⟩ |
    ⟨⟨active, fields, inner, hactive, -, rfl⟩ | ⟨name, -, rfl⟩, -⟩
  · rfl
  · exact namesOf_set hactive.get?_name inner
  · exact namesOf_set_activeKey _ _

/-- A call changes nothing but the marker and the active set. -/
theorem Step.get?_eq (h : Step file now changed after) (hfile : file.IsInStep now) {name : String}
    (hname : name ≠ activeKey) (hinactive : ∀ fields, ¬ file.HasActiveSet name fields) :
    Table.get? changed.content name = Table.get? file.content name := by
  rcases h.changes hfile with ⟨rfl, -⟩ |
    ⟨⟨active, fields, inner, hactive, -, rfl⟩ | ⟨other, -, rfl⟩, -⟩
  · rfl
  · refine Table.get?_set_of_ne _ _ ?_
    rintro rfl
    exact hinactive fields hactive
  · exact Table.get?_set_of_ne _ _ hname

/-- **An environment file is the same when it is opened again, after each call**: the same set is
active, and the same names stand in the same order for the same variables. A call changes nothing
but the marker and the set that was active, and no call fails to find out what to change. -/
theorem load_of_reaches (hload : (load path).on world = (.ok opened, loaded))
    (hmarker : ∀ value, Table.get? opened.content activeKey = some value →
      ∃ name, value = .string name)
    (h : Reaches opened loaded file now) (hstep : Step file now changed after) :
    ((load path).on after).1 = .ok changed ∧ changed.names = file.names ∧
      (∀ name, name ≠ activeKey → (file.active ≠ .string name ∨
          ∀ fields, Table.get? file.content name ≠ some (.object fields)) →
        Table.get? changed.content name = Table.get? file.content name) ∧
      ∀ name text, ∃ result, changed.setVariable? name text = .ok result := by
  obtain ⟨hpath, hopened⟩ := isInStep_load hload hmarker
  obtain ⟨hsame, hfile⟩ := h.isInStep hopened
  obtain ⟨hstepPath, hchanged⟩ := hstep.isInStep hfile
  obtain ⟨active, hactive⟩ := hchanged.exists_active
  refine ⟨?_, hstep.names_eq hfile, fun name hname hinactive => ?_, fun name text => ?_⟩
  · rw [← hpath, ← hsame, ← hstepPath]
    exact hchanged.load_eq
  · exact hstep.get?_eq hfile hname fun fields hset =>
      hinactive.elim (· hset.active_eq) (· fields hset.get?_name)
  · rcases setVariable?_cases hactive name text with hnone | ⟨fields, hset⟩
    · exact ⟨none, hnone⟩
    · exact ⟨_, hset.setVariable?_eq name text⟩

/-- Two sets and a note between them, without a marker. -/
def markerless : Table Value :=
  [("dev", .object [("a", .string "1")]), ("note", .int 3), ("prod", .object [])]

/-- The active set changes, and then a variable is set in it. -/
theorem load_of_reaches_markerless :
    ∃ changed after, ((load ⟨"", ["rext.env.json"]⟩).on after).1 = .ok changed ∧
      changed.active = .string "prod" ∧ changed.names = ["dev", "prod"] ∧
      Table.get? changed.content "dev" = some (.object [("a", .string "1")]) ∧
      Table.get? changed.content "note" = some (.int 3) ∧
      Table.get? changed.content "prod" = some (.object [("b", .object [("c", .string "2")])]) := by
  have hreadable : (Value.object markerless).IsReadableWithin Depth.limit := by
    have hthree : Text.isTooLong 3 = false := by decide +kernel
    refine ⟨?_, by decide +kernel⟩
    simp [markerless, Value.IsReadable, Value.every_object_iff, Value.every_string_iff,
      Value.IsReadableHere, Table.names]
    exact .intro hthree (List.forall_mem_nil _)
  let opened := ofContent ⟨"", ["rext.env.json"]⟩ markerless
  have hfind : World.find (World.holding markerless) ⟨"", ["rext.env.json"]⟩ =
      .ok (.file (Value.object markerless).pretty.toUTF8) := World.find_holding _ {}
  have hload : (load ⟨"", ["rext.env.json"]⟩).on (World.holding markerless) =
      (.ok opened, World.holding markerless) :=
    on_load_of_file hfind (entriesWithin_pretty hreadable)
  have hopened := (isOpened_load hload).2
  let file := opened.setActive "prod"
  have hset : file.HasActiveSet "prod" [] := ⟨rfl, by decide, rfl⟩
  let changed := file.withSet "prod" (setNested [] (.string "2") (partsOfName "b.c"))
  obtain ⟨now, hfirst, hwrote⟩ : ∃ now, file.save.on (World.holding markerless) = (.ok (), now) ∧
      (World.holding markerless).Wrote now :=
    exists_writeEntries hfind (by decide) (by decide +kernel)
  obtain ⟨after, hsecond, hagain⟩ : ∃ after, changed.save.on now = (.ok (), after) ∧
      now.Wrote after :=
    exists_writeEntries_again (hopened.setActive (by decide)).isReadable hfirst hwrote (by decide)
      (by decide +kernel)
  have hmarker : Table.get? opened.content activeKey = none := rfl
  obtain ⟨hagain, hnames, hsame, -⟩ := load_of_reaches hload (by simp [hmarker])
    (.step .refl (.setsActive (by decide) hfirst hwrote))
    (.setsVariable (hset.setVariable?_eq "b.c" "2") hsecond hagain)
  have hdev := hsame "dev" (by decide) (.inl fun h => absurd (Value.string.inj h) (by decide))
  have hnote := hsame "note" (by decide) (.inr fun _ h => by cases h)
  exact ⟨changed, after, hagain, rfl, hnames, hdev, hnote, Table.get?_set_self _ _ _⟩

end EnvironmentFile

end RequestScript
