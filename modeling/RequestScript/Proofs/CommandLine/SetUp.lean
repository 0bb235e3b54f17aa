import Mathlib
import RequestScript.CommandLine
import RequestScript.Proofs.World.Files

/-!
# Before the first request

The command reads the settings and opens the files that keep variables before it runs the first of
its targets. Where neither settings nor files are found, the files are those that it falls back on,
and nothing is written.
-/

namespace RequestScript

open RequestScript.Action

namespace CommandLine

variable {arguments : Arguments}

/-- What is done before the first request is run. What a runner falls back on comes back. -/
def setUp (arguments : Arguments) (file : String) : Action Defaults := do
  let settings ← Settings.load (← Settings.locate arguments.config)
  let values ← settings.processVariables
  settings.equip values (some (Path.ofString file)) arguments.environment
  arguments.assignments.forM setVariable
  return ← settings.runnerDefaults

/-- The targets are run when all is set up. -/
theorem serve_eq_of_targets {document : Document} {targets : List Request}
    (hlist : arguments.list = false) (hresolve : arguments.resolve = false)
    (htargets : targets? arguments document.requests = some targets) (file : String) :
    serve arguments file document = setUp arguments file >>= fun defaults =>
      runRequests arguments document.requests defaults targets := by
  unfold serve setUp
  rw [hlist, hresolve, htargets]
  simp

/-! ## A world without settings -/

/-- What a run without settings finds in a world without files. -/
def equippedWorld : World :=
  let side : Path := ⟨"", [Store.collectionFile]⟩
  { World.quiet with
    store :=
      { global := { file := some ⟨"/", [".rext", "globals.json"]⟩ }
        collection := { file := some side }
        keeper := .file (.ofContent ⟨"/", ["rext.env.json"]⟩ []) }
    events := [.logged Store.variablesLog ("Collection variables loaded from " ++ side.text)] }

theorem on_equip_quiet : (Settings.equip {} [] (some ⟨"", ["a.rext"]⟩) none).on World.quiet =
    (.ok (), equippedWorld) := by
  let script : Path := ⟨"", ["a.rext"]⟩
  let side : Path := ⟨"", [Store.collectionFile]⟩
  let opened : World :=
    { World.quiet with
      store := { equippedWorld.store with collection := {} } }
  have hopen : (Settings.openFiles {} (some script) none).on World.quiet =
      (.ok (equippedWorld.store.global, .ofContent ⟨"/", ["rext.env.json"]⟩ []), World.quiet) := by
    cbv
  have hside : script.parent.child Store.collectionFile = side := by decide +kernel
  have hscript : (isDirectory script).on opened = (.ok false, opened) := by cbv
  have hnames : opened.locate side = .ok [Store.collectionFile] :=
    World.locate_of_text (by decide +kernel) (by decide +kernel)
  have hmissing : opened.find side = .error .noSuchFile := by
    rw [World.find, hnames]
    rfl
  have hlayer : (Layer.load side).on opened = (.ok { file := some side }, opened) := by
    unfold Layer.load readEntries
    rw [on_bind, on_bind, on_pathExists, hmissing]
    rfl
  have hcollection : (Store.loadCollection script).on opened = (.ok side, equippedWorld) := by
    unfold Store.loadCollection
    rw [on_bind, hscript]
    simp only [Bool.false_eq_true, if_false, hside]
    rw [on_bind, hlayer]
    rfl
  unfold Settings.equip
  rw [on_bind, hopen]
  change (Settings.loadBeside (some script)).on opened = _
  unfold Settings.loadBeside
  dsimp only
  rw [on_bind, hcollection]
  rfl

theorem on_setUp_quiet (hconfig : arguments.config = none)
    (henvironment : arguments.environment = none) (hassignments : arguments.assignments = []) :
    (setUp arguments "a.rext").on World.quiet = (.ok {}, equippedWorld) := by
  have hpath : Path.ofString "a.rext" = ⟨"", ["a.rext"]⟩ := by decide +kernel
  have hlocate : (Settings.locate none).on World.quiet = (.ok none, World.quiet) := by cbv
  have hload : (Settings.load none).on World.quiet = (.ok {}, World.quiet) := rfl
  have hvalues : (Settings.processVariables {}).on World.quiet = (.ok [], World.quiet) := rfl
  unfold setUp
  rw [hconfig, henvironment, hassignments, hpath, on_bind_of_ok hlocate, on_bind_of_ok hload,
    on_bind_of_ok hvalues]
  rw [on_bind, on_equip_quiet]
  rfl

end CommandLine

end RequestScript
