import RequestScript.Proofs.Variables.Nested
import RequestScript.Proofs.World.Overwriting

/-!
# Environment files

An environment file that is saved is the same when it is opened again. Setting a variable of the
active set changes that set alone, so the same set is active then, and what the variable is depends
on nothing but how its set is flattened.
-/

namespace RequestScript

open RequestScript.Action

namespace EnvironmentFile

/-- The file is as it is when it has been opened: its content can be read and tells which set is
active. -/
structure IsOpened (file : EnvironmentFile) : Prop where
  ofContent_eq : ofContent file.path file.content = file
  isReadable : (Value.object file.content).IsReadable

/-- The active set of the file has a name and variables. -/
structure HasActiveSet (file : EnvironmentFile) (active : String) (fields : Table Value) :
    Prop where
  active_eq : file.active = .string active
  name_ne : active ≠ ""
  get?_name : Table.get? file.content active = some (.object fields)

/-- The file with other variables in a set. -/
def withSet (file : EnvironmentFile) (name : String) (fields : Table Value) : EnvironmentFile :=
  { file with content := Table.set file.content name (.object fields) }

/-! ## Names -/

theorem namesOf_append (front back : Table Value) :
    namesOf (front ++ back) = namesOf front ++ namesOf back :=
  List.filterMap_append

theorem ne_activeKey_of_mem_namesOf {content : Table Value} {name : String}
    (h : name ∈ namesOf content) : name ≠ activeKey := by
  obtain ⟨⟨key, value⟩, -, hname⟩ := List.mem_filterMap.mp h
  dsimp only at hname
  split at hname
  · next hkey =>
    obtain rfl := Option.some.inj hname
    simp only [Bool.and_eq_true, bne_iff_ne] at hkey
    exact hkey.1
  · cases hname

/-- A set keeps its place among the names when its variables change. -/
theorem namesOf_set {content fields : Table Value} {name : String}
    (h : Table.get? content name = some (.object fields)) (changed : Table Value) :
    namesOf (Table.set content name (.object changed)) = namesOf content := by
  obtain ⟨front, back, rfl, hfront⟩ := Table.eq_append_of_get? h
  rw [Table.set_append hfront, namesOf_append, namesOf_append, Table.set, if_pos rfl]
  rfl

/-! ## Opening -/

theorem isOpened_load {path : Path} {world loaded : World} {file : EnvironmentFile}
    (h : (load path).on world = (.ok file, loaded)) : file.path = path ∧ file.IsOpened := by
  obtain ⟨entries, between, hread, hfile⟩ := on_bind_ok h
  cases hfile
  exact ⟨rfl, rfl, isReadable_of_readEntries hread⟩

theorem IsOpened.setActive {file : EnvironmentFile} (h : file.IsOpened) {name : String}
    (hname : name ≠ "") : (file.setActive name).IsOpened where
  ofContent_eq := by
    have hgiven : (Value.string name).isGiven = true := by simpa [Value.isGiven] using hname
    simp [EnvironmentFile.setActive, ofContent, Table.get?_set_self, hgiven]
  isReadable := h.isReadable.object_set (.intro trivial nofun)
    (Table.nodup_set h.isReadable.here _ _)

section ActiveSet

variable {file : EnvironmentFile} {active : String} {fields : Table Value}

theorem HasActiveSet.ne_activeKey (h : file.HasActiveSet active fields) (hopened : file.IsOpened) :
    active ≠ activeKey := by
  rintro rfl
  have hactive := h.active_eq
  rw [← hopened.ofContent_eq] at hactive
  simp only [ofContent, h.get?_name, Option.getD_some] at hactive
  split at hactive
  · cases hactive
  · have hfirst := Value.string.inj hactive
    cases hnames : namesOf file.content with
    | nil =>
      rw [hnames] at hfirst
      exact absurd hfirst (by decide)
    | cons first rest =>
      rw [hnames] at hfirst
      have hmem : first ∈ namesOf file.content := hnames ▸ List.mem_cons_self
      exact ne_activeKey_of_mem_namesOf hmem hfirst

/-- The same set is active when its variables change. -/
theorem IsOpened.withSet (hopened : file.IsOpened) (h : file.HasActiveSet active fields)
    {changed : Table Value} (hchanged : (Value.object changed).IsReadable) :
    (file.withSet active changed).IsOpened where
  ofContent_eq := by
    have hkey := Table.get?_set_of_ne file.content (.object changed)
      (Ne.symm (h.ne_activeKey hopened))
    have hfile := hopened.ofContent_eq
    cases file
    simp only [EnvironmentFile.withSet, ofContent, hkey, namesOf_set h.get?_name,
      EnvironmentFile.mk.injEq, true_and] at hfile ⊢
    exact hfile
  isReadable := hopened.isReadable.object_set hchanged (Table.nodup_set hopened.isReadable.here _ _)

theorem HasActiveSet.withSet (h : file.HasActiveSet active fields) (changed : Table Value) :
    (file.withSet active changed).HasActiveSet active changed :=
  ⟨h.active_eq, h.name_ne, Table.get?_set_self _ _ _⟩

theorem HasActiveSet.activeVariables_eq (h : file.HasActiveSet active fields) :
    file.activeVariables = .ok fields := by
  simp [activeVariables, variablesOf, lookup, h.active_eq, h.get?_name, Value.fields?, bind,
    Except.bind, pure, Except.pure]

/-- A variable of the active set is set in a nested set. -/
theorem HasActiveSet.setVariable?_eq (h : file.HasActiveSet active fields) (name text : String) :
    file.setVariable? name text =
      .ok (some (file.withSet active (setNested fields (.string text) (partsOfName name)))) := by
  have hgiven : (Value.string active).isGiven = true := by
    simpa [Value.isGiven] using h.name_ne
  unfold setVariable?
  simp only [lookup, h.active_eq, h.get?_name, hgiven]
  cases file
  cases h.active_eq
  rfl

theorem IsOpened.isReadable_set (hopened : file.IsOpened) (h : file.HasActiveSet active fields) :
    (Value.object fields).IsReadable :=
  hopened.isReadable.of_get? h.get?_name

end ActiveSet

/-! ## Saving and opening again -/

theorem on_load_of_file {path : Path} {world : World} {bytes : ByteArray} {entries : Table Value}
    (hfind : world.find path = .ok (.file bytes))
    (hbytes : entriesWithin world.room bytes = .ok (.ok entries)) :
    (load path).on world = (.ok (ofContent path entries), world) := by
  unfold load
  rw [on_bind, on_readEntries_of_file hfind hbytes]
  rfl

/-- **A file that is saved is the same when it is opened again.** -/
theorem load_of_save {file : EnvironmentFile} (hopened : file.IsOpened) {world saved : World}
    (h : file.save.on world = (.ok (), saved)) (hwrote : world.Wrote saved) :
    (load file.path).on saved = (.ok file, saved) := by
  obtain ⟨hfind, hentries⟩ := readEntries_of_writeEntries hopened.isReadable h hwrote
  rw [on_load_of_file hfind hentries, hopened.ofContent_eq]

/-! ## A file with one set -/

/-- An environment file with one set. -/
def withOneSet (fields : Table Value) : EnvironmentFile :=
  ofContent ⟨"", ["rext.env.json"]⟩ [("dev", .object fields)]

theorem hasActiveSet_withOneSet (fields : Table Value) :
    (withOneSet fields).HasActiveSet "dev" fields :=
  ⟨rfl, by decide, rfl⟩

theorem load_withOneSet {fields : Table Value} (store : Store)
    (hfields : (Value.object fields).IsReadableWithin (Depth.limit - 1)) :
    (load ⟨"", ["rext.env.json"]⟩).on { World.holding [("dev", .object fields)] with store } =
      (.ok (withOneSet fields), { World.holding [("dev", .object fields)] with store }) := by
  have hcontent : (Value.object [("dev", .object fields)]).IsReadableWithin
      (Depth.limit - 1 + 1) :=
    Value.isReadableWithin_object (by simp [Table.names]) (List.forall_mem_singleton.mpr hfields)
  exact on_load_of_file (World.find_holding _ store) (entriesWithin_pretty hcontent)

end EnvironmentFile

end RequestScript
