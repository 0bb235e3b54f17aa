import RequestScript.Proofs.Variables.InStep
import RequestScript.Proofs.Variables.Interpolation
import RequestScript.Proofs.World.Keeping
import RequestScript.Proofs.World.Tables

/-!
# What was written last

Whatever operations have been carried out on a store, a name is found with the text that was written
for it last into the first layer that still has it. Which text that is can be read back from the
operations alone, the last one first. A layer with a file is written as a whole, so what has been
written into a collection layer is what the layer has when its file is opened again.
-/

namespace RequestScript

open RequestScript.Action

namespace Layer

/-- What a layer has under a name after a change of it. -/
def Change.value? (change : Change) (before : Option Value) (name : String) : Option Value :=
  match change with
  | .set key text => if name = key then some (.string text) else before
  | .replace texts _ => (Table.get? texts name).map .string
  | .clear => none

theorem file_changed (layer : Layer) (change : Change) :
    (layer.changed change).file = layer.file := by
  cases change <;> rfl

theorem get?_changed (layer : Layer) (change : Change) (name : String) :
    Table.get? (layer.changed change).entries name =
      change.value? (Table.get? layer.entries name) name := by
  cases change with
  | set key text =>
    rw [Change.value?]
    split
    · next hname => exact hname ▸ Table.get?_set_self _ _ _
    · next hname => exact Table.get?_set_of_ne _ _ hname
  | replace texts hnames => exact Table.get?_mapValues _ _ _
  | clear => rfl

end Layer

namespace Store

/-- An operation on the layers of a store. -/
inductive Operation where
  | set (scope : Scope) (name : String) (value : Datum)
  | loadEnvironment (nested : Table Value) (name : Option Value)
  | clearEnvironment
  | clearSession
  | loadCollection (path : Path)

/-- Something that variables are written into. -/
inductive Holder where
  /-- The layer of a scope. -/
  | layer (scope : Scope)
  /-- The file at a place. -/
  | file (place : List String)

namespace Operation

/-- Carries out an operation. -/
def run : Operation → Action Unit
  | .set scope name value => Store.set scope name value
  | .loadEnvironment nested name => Store.loadEnvironment nested name
  | .clearEnvironment => Store.clearEnvironment
  | .clearSession => Store.clearSession
  | .loadCollection path => do
    let _ ← Store.loadCollection path
    return

/-- The scope whose layer is written. -/
def scope : Operation → Scope
  | .set scope _ _ => scope
  | .loadEnvironment .. | .clearEnvironment => .env
  | .clearSession => .session
  | .loadCollection _ => .collection

/-- How the layer is changed, unless it is another one that takes its place. -/
def change? : Operation → Option Layer.Change
  | .set _ name value => some (.set name value.text)
  | .loadEnvironment nested _ => some (.replace (flatten nested) (Table.nodup_ofPairs _))
  | .clearEnvironment | .clearSession => some .clear
  | .loadCollection _ => none

end Operation

/-- An operation that has been carried out, with the place of the file that it has written or
opened, if there was one. -/
structure Done where
  operation : Operation
  place : Option (List String)

namespace Done

/-- Whether something is written. -/
def writes (done : Done) : Holder → Bool
  | .layer scope => scope = done.operation.scope
  | .file place => done.operation.change?.isSome && done.place = some place

@[simp] theorem writes_layer (done : Done) (scope : Scope) :
    done.writes (.layer scope) = decide (scope = done.operation.scope) := rfl

@[simp] theorem writes_file (done : Done) (place : List String) :
    done.writes (.file place) =
      (done.operation.change?.isSome && decide (done.place = some place)) := rfl

/-- What a holder has under a name after an operation, by what each holder had before it. -/
def value? (done : Done) (before : Holder → String → Option Value) (holder : Holder)
    (name : String) : Option Value :=
  if done.writes holder then
    match done.operation.change? with
    | some change => change.value? (before (.layer done.operation.scope) name) name
    | none => done.place.bind fun place => before (.file place) name
  else before holder name

end Done

end Store

open Store

/-- What a holder has under a name in a world. -/
def World.held? (world : World) : Holder → String → Option Value
  | .layer scope, name => world.store.held? scope name
  | .file place, name => Table.get? (world.tableAt place) name

@[simp] theorem World.held?_layer (world : World) (scope : Scope) (name : String) :
    world.held? (.layer scope) name = Table.get? (world.store.layer scope).entries name := rfl

@[simp] theorem World.held?_file (world : World) (place : List String) (name : String) :
    world.held? (.file place) name = Table.get? (world.tableAt place) name := rfl

namespace Store

/-- What was written last under a name into a holder, by operations with the last one first, where
nothing was written since the start. -/
def lastWritten (start : World) : List Done → Holder → String → Option Value
  | [] => start.held?
  | done :: earlier => done.value? (lastWritten start earlier)

/-- An operation writes nothing for a name into a layer, nor takes anything out of the layer. -/
def Done.Spares (done : Done) (scope : Scope) (name : String) : Prop :=
  done.operation.scope = scope →
    ∃ key value, key ≠ name ∧ done.operation = .set scope key value

/-- What was written stays the last as long as nothing else is written for the name. -/
theorem lastWritten_append {start : World} {later : List Done} {scope : Scope} {name : String}
    (h : ∀ done ∈ later, done.Spares scope name) (earlier : List Done) :
    lastWritten start (later ++ earlier) (.layer scope) name =
      lastWritten start earlier (.layer scope) name := by
  induction later with
  | nil => rfl
  | cons done later ih =>
    rw [← ih fun other hother => h other (List.mem_cons_of_mem _ hother), List.cons_append,
      lastWritten, Done.value?]
    split
    · next hwrites =>
      have hscope : scope = done.operation.scope := by simpa using hwrites
      obtain ⟨key, value, hkey, hset⟩ := h done List.mem_cons_self hscope.symm
      simp only [hset, Operation.change?, Operation.scope, Layer.Change.value?,
        if_neg (Ne.symm hkey)]
    · rfl

/-- A text that is set is the last one written, as long as nothing else is written for the name. -/
theorem lastWritten_set {start : World} {later : List Done} {scope : Scope} {name : String}
    (h : ∀ done ∈ later, done.Spares scope name) (value : Datum) (place : Option (List String))
    (earlier : List Done) :
    lastWritten start (later ++ ⟨.set scope name value, place⟩ :: earlier) (.layer scope) name =
      some (.string value.text) := by
  rw [lastWritten_append h]
  simp [lastWritten, Done.value?, Operation.scope, Operation.change?, Layer.Change.value?]

/-- An operation that is carried out leads from one world to another one. Where a layer with a file
is changed, the file is written. -/
inductive Leads : Done → World → World → Prop where
  /-- A layer is changed that is kept nowhere else. -/
  | changes {operation : Operation} {change : Layer.Change} {world after : World}
      (hchange : operation.change? = some change)
      (hfile : (world.store.layer operation.scope).file = none)
      (hon : operation.run.on world = (.ok (), after)) : Leads ⟨operation, none⟩ world after
  /-- A layer is changed and written to its file. -/
  | writes {operation : Operation} {change : Layer.Change} {world after : World} {path : Path}
      {place : List String} (hchange : operation.change? = some change)
      (hfile : (world.store.layer operation.scope).file = some path)
      (hon : operation.run.on world = (.ok (), after)) (hwrote : after.justWrote? = some place) :
      Leads ⟨operation, some place⟩ world after
  /-- The collection layer is taken from a file. -/
  | opens {path side : Path} {world after : World}
      (hon : (loadCollection path).on world = (.ok side, after)) :
      Leads ⟨.loadCollection path, world.fileAt? side⟩ world after

/-- Where operations lead that are carried out one after the other, the last one first. -/
inductive Runs (start : World) : List Done → World → Prop where
  | nil : Runs start [] start
  | cons {log : List Done} {world after : World} {done : Done} (h : Runs start log world)
      (hdone : Leads done world after) : Runs start (done :: log) after

/-- Every layer that has a file can be read from one, as every layer can that has been opened. -/
def IsKept (store : Store) : Prop :=
  ∀ scope path, (store.layer scope).file = some path → (store.layer scope).IsKeptIn path

variable {operation : Operation} {change : Layer.Change} {world after : World} {done : Done}

/-! ## One operation -/

/-- An operation that changes a layer puts the changed one in its place. It does no more besides
than to note a variable and to name the active environment. -/
theorem on_run_of_change? (hchange : operation.change? = some change) (world : World) :
    ∃ events f, (∀ store scope, (f store).layer scope = layer store scope) ∧
      operation.run.on world =
        (replaceLayer operation.scope ((world.store.layer operation.scope).changed change) >>=
          fun _ => update f).on { world with events } := by
  -- Where the active environment stays, the last step changes nothing.
  have hid (action : Action Unit) (world : World) :
      (action >>= fun _ => update id).on world = action.on world := by
    rw [on_bind]
    rcases action.on world with ⟨_ | _, _⟩ <;> rfl
  cases operation with
  | set scope name value =>
    obtain rfl := Option.some.inj hchange
    refine ⟨.set scope name value.text :: world.events, id, fun _ _ => rfl, ?_⟩
    rw [hid]
    rfl
  | loadEnvironment nested name =>
    obtain rfl := Option.some.inj hchange
    exact ⟨world.events, fun store => { store with active := name },
      fun _ scope => by cases scope <;> rfl, rfl⟩
  | clearEnvironment =>
    obtain rfl := Option.some.inj hchange
    exact ⟨world.events, fun store => { store with active := none },
      fun _ scope => by cases scope <;> rfl, rfl⟩
  | clearSession =>
    obtain rfl := Option.some.inj hchange
    refine ⟨world.events, id, fun _ _ => rfl, ?_⟩
    rw [hid]
    rfl
  | loadCollection path => cases hchange

/-- An operation that changes a layer puts the changed one in its place, also where it fails. -/
theorem layer_of_run (hchange : operation.change? = some change) {result : Except Fault Unit}
    (hon : operation.run.on world = (result, after)) (scope : Scope) :
    after.store.layer scope = if scope = operation.scope then
      (world.store.layer scope).changed change else world.store.layer scope := by
  have hplaced : after.store.layer scope = (world.store.setLayer operation.scope
      ((world.store.layer operation.scope).changed change)).layer scope := by
    obtain ⟨events, f, hf, hrun⟩ := on_run_of_change? hchange world
    have hstore := store_on_replaceLayer operation.scope
      ((world.store.layer operation.scope).changed change) { world with events }
    rw [hon, on_bind] at hrun
    rcases hreplace : (replaceLayer operation.scope _).on { world with events } with
      ⟨fault | _, between⟩ <;> rw [hreplace] at hstore hrun <;>
      obtain rfl := congrArg Prod.snd hrun
    · exact congrArg (layer · scope) hstore
    · exact (hf between.store scope).trans (congrArg (layer · scope) hstore)
  rw [hplaced]
  split
  · next hscope => rw [hscope, layer_setLayer_self]
  · next hscope => exact layer_setLayer_of_ne _ _ hscope

theorem layer_on_loadCollection_of_ne (path : Path) (world : World) {scope : Scope}
    (h : scope ≠ .collection) :
    ((loadCollection path).on world).2.store.layer scope = world.store.layer scope := by
  rw [on_loadCollection]
  split
  · rfl
  · next directory _ =>
    dsimp only
    rcases hread : (readEntries (sideFile path directory)).on world with
      ⟨fault | entries, between⟩ <;> obtain ⟨_, rfl, -⟩ := (logs_readEntries _).rel_of_on hread
    · rfl
    · cases scope <;> first | rfl | exact absurd rfl h

/-- **An operation leaves the layers of all other scopes alone**, also where it fails. -/
theorem layer_on_run_of_ne (operation : Operation) (world : World) {scope : Scope}
    (h : scope ≠ operation.scope) :
    (operation.run.on world).2.store.layer scope = world.store.layer scope := by
  cases hchange : operation.change? with
  | some change => exact (layer_of_run hchange (Prod.mk.eta).symm scope).trans (if_neg h)
  | none =>
    cases operation with
    | loadCollection path =>
      rw [Operation.run, on_map_snd]
      exact layer_on_loadCollection_of_ne path world h
    | _ => cases hchange

/-- No operation gives a layer another file, but for the one that opens a file. -/
theorem file_on_run (hchange : operation.change? = some change) {result : Except Fault Unit}
    (hon : operation.run.on world = (result, after)) (scope : Scope) :
    (after.store.layer scope).file = (world.store.layer scope).file := by
  rw [layer_of_run hchange hon]
  split
  · exact Layer.file_changed _ _
  · rfl

/-- An operation that changes a layer saves it. -/
theorem exists_save_of_run (hchange : operation.change? = some change)
    (hon : operation.run.on world = (.ok (), after)) :
    ∃ start saved,
      ((world.store.layer operation.scope).changed change).save.on start = (.ok (), saved) ∧
        world.SameTables start ∧ saved.SameTables after ∧
        after.justWrote? = saved.justWrote? := by
  obtain ⟨events, f, -, hrun⟩ := on_run_of_change? hchange world
  rw [hrun] at hon
  obtain ⟨⟨⟩, saved, hreplace, hupdate⟩ := on_bind_ok hon
  cases hupdate
  exact ⟨_, saved, hreplace, World.sameTables_of_files_eq rfl rfl,
    World.sameTables_of_files_eq rfl rfl, rfl⟩

/-- A change shows in the layer, and in the file that the layer is written to. -/
theorem held?_of_change (hchange : operation.change? = some change)
    (hon : operation.run.on world = (.ok (), after)) {place : Option (List String)}
    (htables : ∀ elsewhere, after.tableAt elsewhere =
      if place = some elsewhere then ((world.store.layer operation.scope).changed change).entries
      else world.tableAt elsewhere) :
    after.held? = (Done.mk operation place).value? world.held? := by
  funext holder name
  rw [Done.value?, hchange]
  cases holder with
  | layer scope =>
    rw [World.held?_layer, layer_of_run hchange hon]
    by_cases hscope : scope = operation.scope
    · simp [hscope, Layer.get?_changed]
    · simp [hscope]
  | file elsewhere =>
    rw [World.held?_file, htables]
    by_cases hplace : place = some elsewhere
    · simp [hchange, hplace, Layer.get?_changed]
    · simp [hplace]

/-- **What an operation writes is there after it**, and nothing else has changed. -/
theorem Leads.held?_eq (h : Leads done world after) (hkept : world.store.IsKept) :
    after.held? = done.value? world.held? := by
  cases h with
  | changes hchange hfile hon =>
    obtain ⟨start, saved, hsave, hstart, hsaved, -⟩ := exists_save_of_run hchange hon
    refine held?_of_change hchange hon fun elsewhere => ?_
    have hsame : start = saved := by
      rw [Layer.save, (Layer.file_changed _ _).trans hfile] at hsave
      exact congrArg Prod.snd hsave
    subst hsame
    rw [if_neg (by simp)]
    exact congrFun (hsaved.trans hstart) elsewhere
  | @writes _ change _ _ _ _ hchange hfile hon hwrote =>
    obtain ⟨start, saved, hsave, hstart, hsaved, hjust⟩ := exists_save_of_run hchange hon
    refine held?_of_change hchange hon fun elsewhere => ?_
    have hlayer := (hkept _ _ hfile).changed change
    rw [Layer.save, hlayer.file_eq] at hsave
    rw [congrFun hsaved elsewhere, tableAt_of_writeEntries hlayer.isReadable hsave
      (hjust.symm.trans hwrote), congrFun hstart elsewhere]
    simp only [Option.some.injEq, eq_comm]
  | opens hon =>
    obtain ⟨entries, between, hread, rfl⟩ := on_loadCollection_ok hon
    obtain ⟨hentries, hsame⟩ := eq_tableAt_of_readEntries hread
    obtain ⟨_, rfl, -⟩ := (logs_readEntries _).rel_of_on hread
    funext holder name
    cases holder with
    | layer scope =>
      cases scope with
      | collection =>
        rw [Done.value?, if_pos (by simp [Operation.scope]), World.held?_layer]
        dsimp only [layer, Operation.change?]
        rw [hentries]
        cases world.fileAt? _ <;> rfl
      | _ => rfl
    | file place => exact congrArg (Table.get? · name) (congrFun hsame place)

theorem isKept_of_change (hchange : operation.change? = some change)
    (hon : operation.run.on world = (.ok (), after)) (hkept : world.store.IsKept) :
    after.store.IsKept := by
  intro scope path hfile
  rw [layer_of_run hchange hon] at hfile ⊢
  by_cases hscope : scope = operation.scope
  · rw [if_pos hscope, Layer.file_changed] at hfile
    rw [if_pos hscope]
    exact (hkept _ _ hfile).changed change
  · rw [if_neg hscope] at hfile ⊢
    exact hkept _ _ hfile

theorem Leads.isKept (h : Leads done world after) (hkept : world.store.IsKept) :
    after.store.IsKept := by
  cases h with
  | changes hchange _ hon | writes hchange _ hon _ => exact isKept_of_change hchange hon hkept
  | opens hon =>
    obtain ⟨entries, between, hread, rfl⟩ := on_loadCollection_ok hon
    obtain ⟨_, rfl, -⟩ := (logs_readEntries _).rel_of_on hread
    intro scope path hfile
    cases scope with
    | collection => exact ⟨hfile, isReadable_of_readEntries hread⟩
    | session => exact hkept .session path hfile
    | env => exact hkept .env path hfile
    | global => exact hkept .global path hfile

/-! ## All operations -/

variable {start : World} {log : List Done}

/-- What layers and files have is what was written into them last. -/
theorem Runs.held?_eq (h : Runs start log world) (hkept : start.store.IsKept) :
    world.held? = lastWritten start log ∧ world.store.IsKept := by
  -- A layer is read again only where it could be read before, so that both go through together.
  induction h with
  | nil => exact ⟨rfl, hkept⟩
  | cons _ hdone ih =>
    obtain ⟨hheld, hkept⟩ := ih
    exact ⟨(hdone.held?_eq hkept).trans (congrArg _ hheld), hdone.isKept hkept⟩

/-- A layer that has no file can be changed whatever there is, and no file changes. -/
theorem Runs.exists_changes (h : Runs start log world) (operation : Operation)
    (hchange : operation.change? = some change)
    (hfile : (world.store.layer operation.scope).file = none) :
    ∃ after, Runs start (⟨operation, none⟩ :: log) after ∧ world.SamePlaces after ∧
      after.files = world.files ∧
      ∀ scope, (after.store.layer scope).file = (world.store.layer scope).file := by
  obtain ⟨events, f, -, hrun⟩ := on_run_of_change? hchange world
  have hsave : ((world.store.layer operation.scope).changed change).save = pure () := by
    rw [Layer.save, Layer.file_changed, hfile]
  rw [replaceLayer, hsave] at hrun
  exact ⟨_, h.cons (.changes hchange hfile hrun), ⟨rfl, rfl, rfl, rfl⟩, rfl,
    file_on_run hchange hrun⟩

/-- A variable can be set in a layer whose file is there. Then the layer can be opened again. -/
theorem Runs.exists_writes (h : Runs start log world) {scope : Scope} {path : Path}
    {content : ByteArray} (hkept : (world.store.layer scope).IsKeptIn path)
    (hfind : world.find path = .ok (.file content)) (hparts : path.parts ≠ []) (name : String)
    (value : Datum) (hroom : (Value.object
      ((world.store.layer scope).set name (.string value.text)).entries).depth ≤ world.room) :
    ∃ after place, Runs start (⟨.set scope name value, some place⟩ :: log) after ∧
      after.fileAt? path = some place ∧
      (∃ bytes entries, after.find path = .ok (.file bytes) ∧
        entriesWithin after.room bytes = .ok (.ok entries)) ∧
      ∀ scope, (after.store.layer scope).file = (world.store.layer scope).file := by
  let layer := (world.store.layer scope).set name (.string value.text)
  let noted : World := { world with
    store := world.store.withText scope name value.text
    events := .set scope name value.text :: world.events }
  have hfound : noted.find path = .ok (.file content) := hfind
  obtain ⟨after, hwrite, hwrote⟩ := exists_writeEntries hfound hparts hroom
  obtain ⟨place, hplace⟩ := hwrote.exists_justWrote?
  have hreadable := (hkept.changed (.set name value.text)).isReadable
  have hsave : layer.save = writeEntries path layer.entries := by
    have hfile : layer.file = some path := hkept.file_eq
    rw [Layer.save, hfile]
  have hon : (Operation.run (.set scope name value)).on world = (.ok (), after) :=
    (on_set_eq scope name value world).trans ((congrArg (Action.on · noted) hsave).trans hwrite)
  have hchange : (Operation.set scope name value).change? = some (.set name value.text) := rfl
  exact ⟨after, place, h.cons (.writes hchange hkept.file_eq hon hplace),
    fileAt?_of_writeEntries hwrite hplace,
    ⟨_, _, readEntries_of_writeEntries hreadable hwrite hwrote⟩, file_on_run hchange hon⟩

/-- The file of captured variables in the root. -/
def rootSide : Path := ⟨"/", [collectionFile]⟩

/-- The collection layer can be taken from a file in the root that holds a table. -/
theorem Runs.opens_root (h : Runs start log world) {bytes : ByteArray} {entries : Table Value}
    (hfind : world.find rootSide = .ok (.file bytes))
    (hbytes : entriesWithin world.room bytes = .ok (.ok entries)) :
    Runs start (⟨.loadCollection ⟨"/", []⟩, world.fileAt? rootSide⟩ :: log)
      (takenFrom rootSide entries world) := by
  have hnames : world.locate ⟨"/", []⟩ = .ok [] :=
    World.locate_of_text (by decide +kernel) (by decide +kernel)
  have hroot : world.find ⟨"/", []⟩ = .ok .directory := by
    rw [World.find, hnames]
    rfl
  have hdirectory : ((isDirectory ⟨"/", []⟩).on world).1 = .ok true := by
    rw [on_isDirectory, hroot]
    rfl
  have hside : sideFile ⟨"/", []⟩ true = rootSide := by decide +kernel
  refine h.cons (.opens ?_)
  rw [on_loadCollection, hdirectory]
  dsimp only
  rw [hside, on_readEntries_of_file hfind hbytes]

/-- A world with nothing but a file of captured variables, which holds none yet. -/
def emptySide : World :=
  { World.quiet with
    files := ⟨[([collectionFile], .file (Value.object []).pretty.toUTF8)]⟩ }

theorem find_emptySide :
    emptySide.find rootSide = .ok (.file (Value.object []).pretty.toUTF8) ∧
      entriesWithin emptySide.room (Value.object []).pretty.toUTF8 = .ok (.ok []) := by
  have hnames : emptySide.locate rootSide = .ok [collectionFile] :=
    World.locate_of_text (by decide +kernel) (by decide +kernel)
  refine ⟨?_, entriesWithin_pretty ⟨.intro List.nodup_nil nofun, by decide +kernel⟩⟩
  rw [World.find, hnames]
  rfl

/-- **A name is found with the text that was written last** into the first layer that has it,
whatever operations have been carried out. A text that was set is in its layer as long as nothing
else is written there for the name. An operation leaves the layers of other scopes alone, and what
is found is what replaces a placeholder with the name. -/
theorem lookup_lastWritten (hkept : start.store.IsKept) (h : Runs start log world)
    (name : String) :
    world.store.lookup name = (Scope.all.findSome? fun scope =>
        lastWritten start log (.layer scope) name).map Value.text ∧
      (∀ scope value place later earlier,
        log = later ++ ⟨.set scope name value, place⟩ :: earlier →
        (∀ done ∈ later, done.Spares scope name) →
        world.store.held? scope name = some (.string value.text)) ∧
      (∀ (operation : Operation) (scope : Scope), scope ≠ operation.scope →
        (operation.run.on world).2.store.layer scope = world.store.layer scope) ∧
      (isName name.toList = true → ∀ clock dice,
        (world.store.interpolate clock ("\x7b\x7b" ++ name ++ "\x7d\x7d")).on dice =
          (.ok (world.store.get name), dice)) := by
  obtain ⟨hheld, -⟩ := h.held?_eq hkept
  refine ⟨?_, fun scope value place later earlier hlog hlater => ?_,
    fun operation _ => layer_on_run_of_ne operation world,
    fun hname clock dice => on_interpolate_name _ clock hname dice⟩
  · rw [← hheld]
    rfl
  · rw [hlog] at hheld
    exact (congrFun (congrFun hheld (.layer scope)) name).trans
      (lastWritten_set hlater value place earlier)

/-- A captured variable is found when its file is opened again. It outlives one of the session, and
comes before one of the environment. -/
theorem lookup_lastWritten_captured :
    ∃ log world, Runs emptySide log world ∧
      log.map Done.operation = [.loadCollection ⟨"/", []⟩, .clearSession,
        .set .session "x" (.ofString "3"), .loadEnvironment [("x", .string "2")] none,
        .set .collection "x" (.ofString "1"), .loadCollection ⟨"/", []⟩] ∧
      world.store.lookup "x" = some "1" := by
  have hkept : emptySide.store.IsKept := fun scope _ hfile => by cases scope <;> cases hfile
  obtain ⟨hfind, hentries⟩ := find_emptySide
  have hopened := Runs.nil.opens_root hfind hentries
  obtain ⟨captured, place, hcaptured, hplace, ⟨bytes, entries, hbytes, hagain⟩, hlayers⟩ :=
    hopened.exists_writes ((hopened.held?_eq hkept).2 .collection rootSide rfl) hfind (by decide)
      "x" (.ofString "1") (by decide +kernel)
  obtain ⟨loaded, hloaded, hplaces, hfiles, hsame⟩ := hcaptured.exists_changes
    (.loadEnvironment [("x", .string "2")] none) rfl (hlayers .env)
  obtain ⟨shadowed, hshadowed, hplaces', hfiles', hsame'⟩ := hloaded.exists_changes
    (.set .session "x" (.ofString "3")) rfl ((hsame _).trans (hlayers .session))
  obtain ⟨cleared, hcleared, hplaces'', hfiles'', -⟩ := hshadowed.exists_changes
    .clearSession rfl ((hsame' _).trans ((hsame _).trans (hlayers .session)))
  have hlast : captured.SamePlaces cleared := hplaces.trans (hplaces'.trans hplaces'')
  have hlastFiles : cleared.files = captured.files := hfiles''.trans (hfiles'.trans hfiles)
  have hruns := hcleared.opens_root ((hlast.find_eq hlastFiles rootSide).trans hbytes)
    (hlast.room_eq ▸ hagain)
  refine ⟨_, _, hruns, rfl, ?_⟩
  rw [(lookup_lastWritten hkept hruns "x").1, hlast.fileAt?_eq hlastFiles, hplace]
  simp [Scope.all, lastWritten, Done.value?, Operation.scope, Operation.change?,
    Layer.Change.value?, Datum.ofString, Datum.text, Value.text]

end Store

end RequestScript
