import RequestScript.Proofs.Settings.Reference
import RequestScript.Proofs.Variables.EnvironmentFile
import RequestScript.Proofs.World.Keeping

/-!
# Variables that are kept

A variable that is kept for later runs is set in the active set of the environment file, which is
saved. When the file is opened again, the environment layer holds the variable with its text, unless
a leaf with the same dotted name stands behind it in the set. Where no name in the set has a dot,
the layer that is loaded then and the one that is in the store hold the same.
-/

namespace RequestScript

open RequestScript.Action EnvironmentFile

/-! ## Keeping -/

namespace Store

/-- The file is saved with the variable set. -/
theorem on_keep_file {file : EnvironmentFile} {active : String} {fields : Table Value}
    (hactive : file.HasActiveSet active fields) {world : World}
    (hkeeper : world.store.keeper = .file file) (name text : String) :
    (keep name (.ofString text)).on world =
      let changed := file.withSet active (setNested fields (.string text) (partsOfName name))
      changed.save.on { world with store := { world.store with keeper := .file changed } } := by
  unfold keep
  rw [on_bind, on_get]
  dsimp only
  rw [hkeeper]
  dsimp only
  rw [on_bind, on_lift]
  have hset : file.setVariable? name (Datum.ofString text).text = _ :=
    hactive.setVariable?_eq name text
  rw [hset]
  dsimp only
  rw [on_bind]
  rfl

/-- A variable can be kept where the file is, and room for it. -/
theorem exists_on_keep {file : EnvironmentFile} {active : String} {fields : Table Value}
    (hactive : file.HasActiveSet active fields) {world : World}
    (hkeeper : world.store.keeper = .file file) {content : ByteArray}
    (hfind : world.find file.path = .ok (.file content)) (hparts : file.path.parts ≠ [])
    (name text : String)
    (hroom : (Value.object (file.withSet active
      (setNested fields (.string text) (partsOfName name))).content).depth ≤ world.room) :
    ∃ saved, (keep name (.ofString text)).on world = (.ok (), saved) ∧ world.Wrote saved := by
  let changed := file.withSet active (setNested fields (.string text) (partsOfName name))
  have hfound : World.find { world with store := { world.store with keeper := .file changed } }
      changed.path = .ok (.file content) := hfind
  rw [on_keep_file hactive hkeeper]
  exact exists_writeEntries hfound hparts hroom

theorem keeper_on_keep {file : EnvironmentFile} {active : String} {fields : Table Value}
    (hactive : file.HasActiveSet active fields) {world : World}
    (hkeeper : world.store.keeper = .file file) (name text : String) :
    ((keep name (.ofString text)).on world).2.store.keeper =
      .file (file.withSet active (setNested fields (.string text) (partsOfName name))) := by
  rw [on_keep_file hactive hkeeper]
  exact congrArg Store.keeper (writes_writeEntries _ _ _).store_eq

/-- Setting a variable changes neither the active environment nor where variables are kept. -/
theorem keeper_on_set (scope : Scope) (name : String) (value : Datum) (world : World) :
    ((set scope name value).on world).2.store.keeper = world.store.keeper := by
  rw [store_on_set, withText]
  cases scope <;> rfl

/-- An environment layer without a file is not written when it is loaded. -/
theorem on_loadEnvironment {world : World} (hfile : world.store.environment.file = none)
    (nested : Table Value) (name : Option Value) :
    (loadEnvironment nested name).on world = (.ok (), { world with
      store := { world.store with
        environment := { entries := (flatten nested).mapValues .string }
        active := name } }) := by
  unfold loadEnvironment replaceLayer update
  rw [on_bind, on_get]
  dsimp only
  rw [on_bind, on_bind, on_modify]
  dsimp only [Layer.save]
  rw [hfile]
  rfl

/-- The environment layer is what nested variables are when they are flattened. -/
theorem entries_loadEnvironment (nested : Table Value) (name : Option Value) (world : World) :
    ((loadEnvironment nested name).on world).2.store.environment.entries =
      (flatten nested).mapValues .string := by
  unfold loadEnvironment
  rw [on_bind, on_get]
  dsimp only
  rw [on_bind]
  have hstore := store_on_replaceLayer .env { world.store.environment with
    entries := (flatten nested).mapValues .string } world
  rcases hreplace : (replaceLayer .env { world.store.environment with
    entries := (flatten nested).mapValues .string }).on world with ⟨_ | _, after⟩ <;>
    rw [hreplace] at hstore
  · exact congrArg (·.environment.entries) hstore
  · exact congrArg (·.environment.entries) hstore

/-- What a variable that is set in a nested set is when the set is loaded. -/
theorem held?_loadEnvironment_setNested (fields : Table Value) (name text : String)
    (active : Option Value) (world : World) :
    ((loadEnvironment (setNested fields (.string text) (partsOfName name)) active).on
        world).2.store.held? .env name = some (.string ((leafBehind? fields name).getD text)) := by
  refine (congrArg (Table.get? · name) (entries_loadEnvironment _ _ world)).trans ?_
  rw [Table.get?_mapValues, get?_flatten_setNested, Option.map_some]

end Store

namespace EnvironmentFile

variable {file : EnvironmentFile} {active : String} {fields : Table Value} {world saved : World}
  {name text : String}

/-- A file in which a variable is kept holds the variable. -/
theorem find_of_keep (hopened : file.IsOpened) (hactive : file.HasActiveSet active fields)
    (hkeeper : world.store.keeper = .file file)
    (hkeep : (Store.keep name (.ofString text)).on world = (.ok (), saved))
    (hwrote : world.Wrote saved) :
    let changed := file.withSet active (setNested fields (.string text) (partsOfName name))
    ∃ bytes, saved.find file.path = .ok (.file bytes) ∧
      entriesWithin saved.room bytes = .ok (.ok changed.content) ∧
      ofContent file.path changed.content = changed := by
  have hreadable := (hopened.isReadable_set hactive).setNested text (partsOfName name)
  have hchanged := hopened.withSet hactive hreadable
  rw [Store.on_keep_file hactive hkeeper] at hkeep
  obtain ⟨hfind, hentries⟩ := readEntries_of_writeEntries hchanged.isReadable hkeep hwrote
  exact ⟨_, hfind, hentries, hchanged.ofContent_eq⟩

/-- A file in which a variable is kept has the variable set when it is opened again. -/
theorem load_of_keep (hopened : file.IsOpened) (hactive : file.HasActiveSet active fields)
    (hkeeper : world.store.keeper = .file file)
    (hkeep : (Store.keep name (.ofString text)).on world = (.ok (), saved))
    (hwrote : world.Wrote saved) :
    (load file.path).on saved =
      (.ok (file.withSet active (setNested fields (.string text) (partsOfName name))), saved) := by
  obtain ⟨bytes, hfind, hentries, hchanged⟩ :=
    find_of_keep hopened hactive hkeeper hkeep hwrote
  rw [on_load_of_file hfind hentries, hchanged]

/-- **What a kept variable is when its file is opened again**: what it was set to, unless a leaf
with its dotted name stands behind it in the active set. Where no text has a dollar sign, it makes
no difference that references to variables of the process are replaced in between. -/
theorem held?_reopened {path : Path} {before loaded opened : World}
    (hload : (load path).on before = (.ok file, loaded)) (hactive : file.HasActiveSet active fields)
    (hplain : (Value.object fields).Every Reference.IsPlainHere) (htext : '$' ∉ text.toList)
    (hkeeper : world.store.keeper = .file file)
    (hkeep : (Store.keep name (.ofString text)).on world = (.ok (), saved))
    (hwrote : world.Wrote saved) :
    ∃ again kept, (load path).on saved = (.ok again, saved) ∧ again.activeVariables = .ok kept ∧
      (∀ values, Reference.expandFields values kept = kept) ∧
      ((Store.loadEnvironment kept (some again.active)).on opened).2.store.held? .env name =
        some (.string ((leafBehind? fields name).getD text)) := by
  obtain ⟨rfl, hopened⟩ := isOpened_load hload
  have hplain := hplain.setNested (partsOfName name) htext trivial fun _ _ _ _ _ => trivial
  refine ⟨_, _, load_of_keep hopened hactive hkeeper hkeep hwrote,
    (hactive.withSet _).activeVariables_eq, fun values => ?_,
    Store.held?_loadEnvironment_setNested fields name text _ opened⟩
  exact Value.object.inj (Reference.expand_of_plain values hplain)

/-- A file in which a variable may be kept. -/
def exampleSet : Table Value := [("a", .object [("b", .string "1")])]

theorem isReadableWithin_exampleSet :
    (Value.object exampleSet).IsReadableWithin (Depth.limit - 1) := by
  refine ⟨?_, by decide +kernel⟩
  simp [exampleSet, Value.IsReadable, Value.every_object_iff, Value.every_string_iff,
    Value.IsReadableHere, Table.names]

theorem held?_reopened_nested :
    ∃ saved again kept, (load ⟨"", ["rext.env.json"]⟩).on saved = (.ok again, saved) ∧
      again.activeVariables = .ok kept ∧
      ((Store.loadEnvironment kept (some again.active)).on World.quiet).2.store.held? .env "a.b" =
        some (.string "2") := by
  let world : World := { World.holding [("dev", .object exampleSet)] with
    store := { keeper := .file (withOneSet exampleSet) } }
  have hactive := hasActiveSet_withOneSet exampleSet
  have hplain : (Value.object exampleSet).Every Reference.IsPlainHere := by
    simp [exampleSet, Value.every_object_iff, Value.every_string_iff, Reference.IsPlainHere]
  have hkeeper : world.store.keeper = .file (withOneSet exampleSet) := rfl
  obtain ⟨saved, hkeep, hwrote⟩ := Store.exists_on_keep hactive hkeeper (World.find_holding _ _)
    (by decide) "a.b" "2" (by decide +kernel)
  obtain ⟨again, kept, hload, hkept, -, hheld⟩ := held?_reopened
    (load_withOneSet {} isReadableWithin_exampleSet) hactive hplain (by decide) hkeeper hkeep hwrote
  have hbehind : leafBehind? exampleSet "a.b" = none := by decide +kernel
  rw [hbehind] at hheld
  exact ⟨saved, again, kept, hload, hkept, hheld⟩

/-- A set in which a leaf stands behind the object that a variable of the same dotted name is set
in. -/
def shadowedSet : Table Value := [("a", .object []), ("a.b", .string "old")]

theorem held?_reopened_shadowed :
    ∃ world saved again kept,
      (load ⟨"", ["rext.env.json"]⟩).on world = (.ok (withOneSet shadowedSet), world) ∧
      world.store.keeper = .file (withOneSet shadowedSet) ∧
      (Store.keep "a.b" (.ofString "new")).on world = (.ok (), saved) ∧ world.Wrote saved ∧
      (load ⟨"", ["rext.env.json"]⟩).on saved = (.ok again, saved) ∧
      again.activeVariables = .ok kept ∧
      ((Store.loadEnvironment kept (some again.active)).on World.quiet).2.store.held? .env "a.b" =
        some (.string "old") := by
  have hactive := hasActiveSet_withOneSet shadowedSet
  have hreadable : (Value.object shadowedSet).IsReadableWithin (Depth.limit - 1) := by
    refine ⟨?_, by decide +kernel⟩
    simp [shadowedSet, Value.IsReadable, Value.every_object_iff, Value.every_string_iff,
      Value.IsReadableHere, Table.names]
  let store : Store := { keeper := .file (withOneSet shadowedSet) }
  have hopen := load_withOneSet store hreadable
  obtain ⟨saved, hkeep, hwrote⟩ := Store.exists_on_keep hactive rfl
    (World.find_holding [("dev", .object shadowedSet)] store) (by decide) "a.b" "new"
    (by decide +kernel)
  have hagain := load_of_keep (isOpened_load hopen).2 hactive rfl hkeep hwrote
  have hbehind : leafBehind? shadowedSet "a.b" = some "old" := by decide +kernel
  refine ⟨_, saved, _, _, hopen, rfl, hkeep, hwrote, hagain,
    (hactive.withSet _).activeVariables_eq, ?_⟩
  rw [Store.held?_loadEnvironment_setNested, hbehind]
  rfl

/-- **The store and the file agree about a kept variable**, where no name in the active set has a
dot and no leaf stands in the way: the set is the flat table with the variable set when it is
flattened, and so is the environment layer of the store. No other set of the file changes. When the
file is written, it is opened again as it is kept. -/
theorem agrees_kept {path : Path} {before loaded between : World} {done result : Except Fault Unit}
    (hload : (load path).on before = (.ok file, loaded)) (hactive : file.HasActiveSet active fields)
    (hdotless : IsDotless (.object fields)) (hfree : IsFree fields name)
    (hkeeper : world.store.keeper = .file file)
    (hlayer : world.store.environment.entries = (flatten fields).mapValues .string)
    (hset : (Store.set .env name (.ofString text)).on world = (done, between))
    (hkeep : (Store.keep name (.ofString text)).on between = (result, saved)) :
    ∃ changed kept, saved.store.keeper = .file changed ∧ changed.active = file.active ∧
      changed.activeVariables = .ok kept ∧
      (∀ other, Table.get? (flatten kept) other =
        Table.get? (Table.set (flatten fields) name text) other) ∧
      (∀ other, saved.store.held? .env other =
        (Table.get? (flatten kept) other).map Value.string) ∧
      (∀ other, other ≠ active →
        Table.get? changed.content other = Table.get? file.content other) ∧
      (result = .ok () → between.Wrote saved → (load path).on saved = (.ok changed, saved)) := by
  obtain ⟨rfl, hopened⟩ := isOpened_load hload
  have hstore := Store.store_on_set .env name (.ofString text) world
  have hbetween := Store.keeper_on_set .env name (.ofString text) world
  have hsame := Store.sameLayers_keep name (.ofString text) between
  rw [hset] at hstore hbetween
  have hkept := Store.keeper_on_keep hactive (hbetween.trans hkeeper) name text
  rw [hkeep] at hsame hkept
  have hflat :=
    get?_flatten_setNested_of_dotless hdotless (hopened.isReadable_set hactive) hfree text
  refine ⟨_, _, hkept, rfl,
    (hactive.withSet _).activeVariables_eq, hflat, fun other => ?_,
    fun other hother => Table.get?_set_of_ne _ _ hother, ?_⟩
  · rw [hflat, Store.held?_of_sameLayers hsame, hstore]
    by_cases hother : other = name
    · subst hother
      rw [Store.held?_withText_self, Table.get?_set_self]
      rfl
    · have hold : world.store.held? .env other =
          Table.get? world.store.environment.entries other := rfl
      rw [Store.held?_withText_of_ne (.inr hother), hold, hlayer, Table.get?_mapValues,
        Table.get?_set_of_ne _ _ hother]
  · rintro rfl hwrote
    exact load_of_keep hopened hactive (hbetween.trans hkeeper) hkeep hwrote

theorem agrees_kept_nested :
    ∃ saved changed kept, saved.store.keeper = .file changed ∧
      changed.activeVariables = .ok kept ∧
      (∀ other, saved.store.held? .env other =
        (Table.get? (flatten kept) other).map Value.string) ∧
      saved.store.held? .env "a.b" = some (.string "2") ∧
      (load ⟨"", ["rext.env.json"]⟩).on saved = (.ok changed, saved) := by
  let world : World := { World.holding [("dev", .object exampleSet)] with
    store :=
      { environment := { entries := (flatten exampleSet).mapValues .string }
        keeper := .file (withOneSet exampleSet) } }
  have hactive := hasActiveSet_withOneSet exampleSet
  let between := ((Store.set .env "a.b" (.ofString "2")).on world).2
  have hset : (Store.set .env "a.b" (.ofString "2")).on world = (.ok (), between) := rfl
  have hdotless : IsDotless (.object exampleSet) := by
    simp [exampleSet, IsDotless, Value.every_object_iff, Value.every_string_iff, IsDotlessHere,
      Value.fields?, Table.names]
  have hfree : IsFree exampleSet "a.b" := by
    have hnames : Table.names (flatten exampleSet) = ["a.b"] := by decide +kernel
    simp [IsFree, hnames, not_extends_self]
  have hkeeper : between.store.keeper = .file (withOneSet exampleSet) := rfl
  have hfind : between.find (withOneSet exampleSet).path =
      .ok (.file (Value.object [("dev", .object exampleSet)]).pretty.toUTF8) :=
    World.find_holding _ between.store
  obtain ⟨saved, hkeep, hwrote⟩ := Store.exists_on_keep hactive hkeeper hfind (by decide) "a.b" "2"
    (by decide +kernel)
  obtain ⟨changed, kept, hchanged, -, hkept, hflat, hsame, -, hload⟩ := agrees_kept
    (load_withOneSet {} isReadableWithin_exampleSet) hactive hdotless hfree rfl rfl hset hkeep
  refine ⟨saved, changed, kept, hchanged, hkept, hsame, ?_, hload rfl hwrote⟩
  rw [hsame, hflat, Table.get?_set_self]
  rfl

end EnvironmentFile

end RequestScript
