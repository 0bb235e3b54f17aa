import RequestScript.Proofs.CommandLine.SetUp
import RequestScript.Proofs.CommandLine.Targets
import RequestScript.Proofs.History.Newest
import RequestScript.Proofs.Run.HeaderNames
import RequestScript.Proofs.Script.Merging
import RequestScript.Proofs.World.Overwriting

/-!
# Running every request

When all requests of a script are asked for, each of them is run by itself in the order of the
script, also after others have failed, and each leaves one entry in the history where it can be
written. The status of the command is that of the reports on the requests asked for: what comes of
the requests before them does not count.
-/

namespace RequestScript.CommandLine

open RequestScript.Action History

variable {arguments : Arguments} {requests : List Request} {defaults : Defaults}
  {headed first : Bool} {written : Prop}

/-- Nothing stops the targets, one after the other: the run of each ends with a report that can be
printed and recorded, and leaves the history file alone. Where it is said that entries are written,
each of them is. -/
inductive Unhindered (arguments : Arguments) (requests : List Request) (defaults : Defaults)
    (headed : Bool) (written : Prop) : Bool → List Request → World → Prop
  | nil {first : Bool} {world : World} :
      Unhindered arguments requests defaults headed written first [] world
  | cons {first : Bool} {target : Request} {rest : List Request} {report : Report}
      {world ran : World}
      (hrun : (runTarget arguments requests defaults headed first target).on world =
        (.ok report, ran))
      (hrecordable : IsRecordable report ran)
      (hsame : ran.find ran.historyPath = world.find world.historyPath)
      (hwrote : written → ran.Wrote ((save report target.id).on ran).2)
      (hrest : Unhindered arguments requests defaults headed written false rest
        ((save report target.id).on ran).2) :
      Unhindered arguments requests defaults headed written first (target :: rest) world

/-- A report on a target has the header names of the target. -/
theorem names_requestHeaders_of_runTarget {target : Request} {report : Report} {world ran : World}
    (h : (runTarget arguments requests defaults headed first target).on world = (.ok report, ran)) :
    Table.names report.requestHeaders = Table.names target.headers := by
  obtain ⟨_, htarget⟩ :=
    exists_on_runTarget_eq arguments requests defaults headed first target world
  rw [htarget] at h
  obtain ⟨found, _, hfound, htext⟩ := on_bind_ok h
  obtain ⟨_, _, _, hprint⟩ := on_bind_ok htext
  obtain ⟨_, _, _, hdone⟩ := on_bind_ok hprint
  cases hdone
  exact Request.names_requestHeaders_of_run hfound

/-- What nothing stops goes on to the last target. -/
theorem Unhindered.exists_serves {targets : List Request} {world : World} {old : List Value}
    (h : Unhindered arguments requests defaults headed written first targets world)
    (hold : Holds world old)
    (hheaders : ∀ target ∈ targets, (Table.names target.headers).Nodup) :
    ∃ reports after, Serves arguments requests defaults headed first targets reports world after ∧
      (runTargets arguments requests defaults headed first targets).on world =
        (.ok (reports.all (·.isPassed)), after) ∧
      (written → ∀ {base : World} {runs : List Saved}, Saves base runs world →
        ∃ more, Saves base (more ++ runs) after ∧ more.map (·.report) = reports.reverse ∧
          more.map (·.id) = (targets.map (·.id)).reverse) := by
  induction h generalizing old with
  | nil => exact ⟨[], _, .nil, rfl, fun _ _ _ hsaves => ⟨[], hsaves, rfl, rfl⟩⟩
  | @cons first target rest report world ran hrun hrecordable hsame hwrote _ ih =>
    obtain ⟨htarget, hothers⟩ := List.forall_mem_cons.mp hheaders
    have hran := hold.of_find_eq hsame
    have hnames : (Table.names report.requestHeaders).Nodup := by
      rwa [names_requestHeaders_of_runTarget hrun]
    obtain ⟨saved, hsave⟩ := exists_on_save hran.load_eq hrecordable target.id
    have hsaved := isSaved_of_save hsave
    -- A save that the file system refuses leaves a list for the next target as well.
    obtain ⟨kept, hkept⟩ := hran.exists_holds_of_save hnames hsave
    rw [hsave] at hwrote ih
    obtain ⟨reports, after, hserves, hruns, hentries⟩ := ih hkept hothers
    refine ⟨report :: reports, after, .cons hrun hsaved hserves, ?_,
      fun hwritten base runs hsaves => ?_⟩
    · rw [runTargets_cons, on_bind, hrun]
      dsimp only
      rw [on_bind_of_ok hsave]
      rw [on_bind, hruns]
      rfl
    · obtain ⟨moment, hclock, -⟩ := hran.of_save hnames hsave (hwrote hwritten)
      let run : Saved := ⟨report, target.id, moment, hnames⟩
      have hrunSaves : Saves base (run :: runs) saved :=
        .cons hsaves hsame hclock hsave (hwrote hwritten)
      obtain ⟨more, hmore, hreports, hids⟩ := hentries hwritten hrunSaves
      refine ⟨more ++ [run], by simpa using hmore, ?_, ?_⟩
      · simp [hreports, run]
      · simp [hids, run]

/-- Whether a run failed: no response came back, or an assertion does not hold. -/
theorem isPassed_eq_false_iff {report : Report} : report.isPassed = false ↔
    report.error.isSome = true ∨ ∃ verdict ∈ report.verdicts, verdict.passed = false := by
  unfold Report.isPassed Report.isOk
  cases report.error <;> simp

/-- **All requests of a script are run**, in order and each by itself, whether or not others have
failed. The status is 1 where a report on one of them has an error or an assertion that does not
hold, and 0 otherwise. Where entries can be written, the history holds one for each of them, the
last one first, and then what it held before, up to the limit. -/
theorem serve_all {file place text : String} {script : Document} {world start : World}
    {old : List Value} (hall : arguments.all = true) (hlist : arguments.list = false)
    (hresolve : arguments.resolve = false) (hparse : Document.parse text = .ok script)
    (hrequests : script.requests ≠ [])
    (hready : (setUp arguments file).on world = (.ok defaults, start)) (hold : Holds start old)
    (h : Unhindered arguments (script.withFile place).requests defaults
      (1 < script.requests.length) written true (script.withFile place).requests start) :
    let document := script.withFile place
    ∃ reports status after,
      (serve arguments file document).on world = (.ok status, after) ∧
      Serves arguments document.requests defaults (1 < script.requests.length) true
        document.requests reports start after ∧
      (status = 0 ∨ status = 1) ∧
      (status = 1 ↔ ∃ report ∈ reports, report.error.isSome = true ∨
        ∃ verdict ∈ report.verdicts, verdict.passed = false) ∧
      (written → ∃ runs : List Saved, runs.map (·.report) = reports.reverse ∧
        runs.map (·.id) = (document.requests.map (·.id)).reverse ∧
        Holds after ((runs.map Saved.entry ++ old).take limit)) := by
  intro document
  have hlength : document.requests.length = script.requests.length := List.length_map _
  have hheaders : ∀ target ∈ document.requests, (Table.names target.headers).Nodup := by
    refine List.forall_mem_map.mpr fun request hmem => ?_
    exact Document.nodup_headers_of_parse hparse request hmem
  obtain ⟨reports, after, hserves, hruns, hentries⟩ := h.exists_serves hold hheaders
  have htargets : targets? arguments document.requests = some document.requests := if_pos hall
  have hstatus : (serve arguments file document).on world =
      (.ok (if reports.all (·.isPassed) then 0 else 1), after) := by
    rw [serve_eq_of_targets hlist hresolve htargets, on_bind, hready]
    unfold runRequests
    dsimp only
    rw [hlength, on_bind, hruns]
    rfl
  refine ⟨reports, _, after, hstatus, hserves, ?_, ?_, fun hwritten => ?_⟩
  · split
    · exact .inl rfl
    · exact .inr rfl
  · simp only [← isPassed_eq_false_iff]
    cases hpassed : reports.all (·.isPassed) <;> simpa using hpassed
  · obtain ⟨runs, hsaves, hreports, hids⟩ := hentries hwritten .nil
    rw [List.append_nil] at hsaves
    -- Without a save, a history of more entries than the limit would stay as it is.
    have hne : runs ≠ [] := by
      rintro rfl
      rw [List.map_nil, eq_comm, List.reverse_eq_nil_iff, List.map_eq_nil_iff] at hids
      exact hrequests (List.map_eq_nil_iff.mp hids)
    exact ⟨runs, hreports, hids, hsaves.holds hold (.inl hne)⟩

/-! ## A script of two requests -/

/-- A request with assertions. -/
def asking (assertions : List Assertion) (startLine endLine : Nat) : Request :=
  { url := "http://h/", assertions, startLine, endLine, filePath := some "/a.rext" }

/-- A script of two requests. The assertion of the first one does not hold in a quiet world. -/
def askingScript : String :=
  "@assert status == 404\nGET http://h/\n###\nGET http://h/\n"

/-- The requests of the script. -/
def askingRequests : List Request :=
  [asking [⟨.status, .equal, none, some "404"⟩] 0 1, asking [] 2 4]

theorem parse_askingScript : ∃ script, Document.parse askingScript = .ok script ∧
    (script.withFile "/a.rext").requests = askingRequests := by
  have hparse : (Document.parse askingScript).toOption.map (fun script =>
      (script.withFile "/a.rext").requests) = some askingRequests := by
    decide +kernel
  cases hscript : Document.parse askingScript with
  | error fault =>
    rw [hscript] at hparse
    cases hparse
  | ok script =>
    rw [hscript] at hparse
    exact ⟨script, rfl, Option.some.inj hparse⟩

/-- A world in which requests of the script have been run and saved. -/
def askedWorld (files : FileTree) (calls : Nat) (events : List Event) : World :=
  { equippedWorld with files, calls, events }

/-- What is known of a response in a quiet world. -/
def quietFindings : Findings :=
  { status := .json (.int 200)
    body := .json (.string "")
    duration := .json (.int 0)
    size := .json (.int 0) }

/-- A report on a response in a quiet world. -/
def quietReport (verdicts : List Assertion.Verdict) : Report :=
  { method := "GET", url := "http://h/", status := 200, body := .json (.string ""), verdicts }

section

variable {assertions : List Assertion} {verdicts : List Assertion.Verdict} {files : FileTree}
  {calls : Nat} {events : List Event}

theorem exists_on_runTarget_asking (requests : List Request)
    (hverdicts : Assertion.checkAll quietFindings assertions = .ok verdicts)
    (htext : ((quietReport verdicts).text false false).isOk = true) (startLine endLine : Nat) :
    ∃ last, (runTarget { all := true } requests {} headed first
        (asking assertions startLine endLine)).on (askedWorld files calls events) =
      (.ok (quietReport verdicts), askedWorld files (calls + 1) last) := by
  suffices ∃ after, (runTarget { all := true } requests {} headed first
      (asking assertions startLine endLine)).on (askedWorld files calls events) =
        (.ok (quietReport verdicts), after) ∧ ∃ last, after = askedWorld files (calls + 1) last by
    obtain ⟨_, hrun, last, rfl⟩ := this
    exact ⟨last, hrun⟩
  refine exists_on_runTarget (fun noted => ?_) htext ?_
  · let target := asking assertions startLine endLine
    let prepared : Prepared := { method := "GET", url := "http://h/", headers := [] }
    let outcome : Outcome := { status := 200, body := .string "" }
    let start := askedWorld files calls noted
    have hready : target.IsReady {} prepared none start := ⟨by cbv, rfl, rfl⟩
    have hreply : Outcome.ofReply start.room none (start.replies start.calls) = .ok outcome := rfl
    obtain ⟨call, sent, -, hrun⟩ := hready.on_run_of_reply hreply
    let ran := askedWorld files (calls + 1) sent
    have hcaptures : (target.captures.forM (Capture.keep outcome)).on ran = (.ok (), ran) := rfl
    rw [← Request.run_eq_run_alone rfl requests] at hrun
    refine ⟨ran, hrun.trans ?_, sent, rfl⟩
    exact target.on_conclude prepared [] start.elapsed 1 rfl hcaptures hverdicts
  · rintro _ last ⟨_, rfl⟩
    exact ⟨last, rfl⟩

theorem isRecordable_askedWorld :
    IsRecordable (quietReport verdicts) (askedWorld files calls events) where
  status := (by decide +kernel : Text.isTooLong 200 = false)
  duration := (by decide +kernel : Text.isTooLong 0 = false)
  clock := (by decide +kernel : (Moment.ofMilliseconds 0).isOk = true)
  home := World.contains_eq_false_of_locate (World.locate_historyPath_of_root rfl)

/-- Nothing stops a request of the script where the history can be written. -/
theorem unhindered_asking {old : List Value} {rest : List Request} {startLine endLine : Nat}
    (hold : Holds (askedWorld files calls events) old)
    (hwritable : (askedWorld files calls events).IsWritableAt
      (askedWorld files calls events).historyPath)
    (hverdicts : Assertion.checkAll quietFindings assertions = .ok verdicts)
    (htext : ((quietReport verdicts).text false false).isOk = true)
    (hrest : ∀ last noted kept, kept ≠ [] → Holds (askedWorld last (calls + 1) noted) kept →
      Unhindered { all := true } requests {} headed True false rest
        (askedWorld last (calls + 1) noted)) :
    Unhindered { all := true } requests {} headed True first
      (asking assertions startLine endLine :: rest) (askedWorld files calls events) := by
  obtain ⟨sent, hrun⟩ := exists_on_runTarget_asking requests hverdicts htext startLine endLine
  have hran : Holds (askedWorld files (calls + 1) sent) old := hold.of_find_eq rfl
  have hwrites := writes_save (quietReport verdicts) none (askedWorld files (calls + 1) sent)
  obtain ⟨after, hsave, hwrote⟩ := hran.exists_save isRecordable_askedWorld hwritable none
  have hheaders : (Table.names (quietReport verdicts).requestHeaders).Nodup := .nil
  obtain ⟨moment, -, hkept⟩ := hran.of_save hheaders hsave hwrote
  rw [hsave] at hwrites
  obtain ⟨last, noted, rfl, -⟩ := hwrites
  have hsaved : ((save (quietReport verdicts) (asking assertions startLine endLine).id).on
      (askedWorld files (calls + 1) sent)).2 = _ := congrArg Prod.snd hsave
  refine .cons hrun isRecordable_askedWorld rfl (fun _ => ?_) ?_
  · rw [hsaved]
    exact hwrote
  · rw [hsaved]
    exact hrest last _ _ (List.cons_ne_nil _ _) hkept

end

/-- The assertion of the first request does not hold: the second one is run as well, and both are in
the history. -/
theorem serve_all_askingScript :
    ∃ script after entries, Document.parse askingScript = .ok script ∧
      (serve { all := true } "a.rext" (script.withFile "/a.rext")).on World.quiet =
        (.ok 1, after) ∧
      Holds after entries ∧ entries.length = 2 := by
  obtain ⟨script, hparse, hrequests⟩ := parse_askingScript
  have hold : Holds equippedWorld [] := .missing (World.find_of_root rfl rfl)
  have hfailed : Assertion.checkAll quietFindings [⟨.status, .equal, none, some "404"⟩] =
      .ok [⟨"status == 404", false⟩] := by decide +kernel
  have hpassed : Assertion.checkAll quietFindings [] = .ok [] := rfl
  have hwritable : equippedWorld.IsWritableAt equippedWorld.historyPath :=
    World.isWritableAt_of_root rfl rfl
  have hunhindered (headed : Bool) : Unhindered { all := true } askingRequests {} headed True true
      askingRequests equippedWorld := by
    refine unhindered_asking hold hwritable hfailed (by decide +kernel) fun _ _ kept hne hkept => ?_
    refine unhindered_asking hkept (hkept.isWritableAt hne) hpassed (by decide +kernel) ?_
    exact fun _ _ _ _ _ => .nil
  have hready : (setUp { all := true } "a.rext").on World.quiet = (.ok {}, equippedWorld) :=
    on_setUp_quiet rfl rfl rfl
  have hlength : script.requests.length = 2 := by
    have h := congrArg List.length hrequests
    rwa [Document.withFile, List.length_map] at h
  have hne : script.requests ≠ [] := List.ne_nil_of_length_pos (by omega)
  rw [← hrequests] at hunhindered
  obtain ⟨reports, status, after, hserve, hserves, -, hstatus, hentries⟩ :=
    serve_all rfl rfl rfl hparse hne hready hold (hunhindered _)
  have hone : status = 1 := by
    obtain ⟨_, hrun⟩ := exists_on_runTarget_asking _ hfailed (by decide +kernel) 0 1
    rw [hrequests] at hserves
    cases hserves with
    | cons hfirst =>
      cases hfirst.symm.trans hrun
      exact hstatus.mpr ⟨_, List.mem_cons_self, .inr ⟨_, List.mem_cons_self, rfl⟩⟩
  obtain ⟨runs, -, hids, hholds⟩ := hentries trivial
  have hruns : runs.length = 2 := by
    have h := congrArg List.length hids
    rwa [List.length_map, List.length_reverse, List.length_map, hrequests] at h
  refine ⟨script, after, _, hparse, hone ▸ hserve, hholds, ?_⟩
  simp [hruns, limit]

/-! ## A history that cannot be written -/

/-- A request that captures the status for all runs. -/
def capturing : Request :=
  { url := "http://h/", captures := [⟨.global, "code", "status"⟩] }

/-- The file that keeps what is captured for all runs, below the path of the history file. -/
def nestedPath : Path := ⟨"/", ["home", History.fileName, "globals.json"]⟩

/-- A world where nothing but the home directory is there. -/
def nestedWorld : World :=
  { World.quiet with
    home := ["home"]
    files := ⟨[(["home"], .directory)]⟩
    store := { global := { file := some nestedPath } } }

/-- The files of the world when something has been captured. -/
def nestedFiles (content : ByteArray) : FileTree :=
  ⟨[(["home"], .directory), (["home", History.fileName], .directory),
    (["home", History.fileName, "globals.json"], .file content)]⟩

/-- The file is written, and a directory made for it in the place of the history file. -/
theorem on_writeEntries_nested (world : World) {entries : Table Value}
    (hfiles : world.files = nestedWorld.files)
    (hroom : (Value.object entries).depth ≤ world.room) :
    ∃ content events, (writeEntries nestedPath entries).on world =
      (.ok (), { world with files := nestedFiles content, events }) := by
  have hparents : world.locate nestedPath.parent = .ok ["home", History.fileName] :=
    World.locate_of_text (by decide +kernel) (by decide +kernel)
  have hnames : world.locate nestedPath = .ok ["home", History.fileName, "globals.json"] :=
    World.locate_of_text (by decide +kernel) (by decide +kernel)
  have hmade : world.files.makeDirectory ["home", History.fileName] =
      .ok ⟨[(["home"], .directory), (["home", History.fileName], .directory)]⟩ := by
    rw [hfiles]
    rfl
  exact ⟨_, _, on_writeEntries_of_makeDirectory hparents hmade hnames hroom rfl⟩

/-- The capture is kept in the file. -/
theorem on_keep_nested (world : World) {outcome : Outcome} (hstatus : outcome.status = 200)
    (hfiles : world.files = nestedWorld.files) (hstore : world.store = nestedWorld.store)
    (hroom : world.room = Depth.limit) :
    ∃ content store events, (Capture.keep outcome ⟨.global, "code", "status"⟩).on world =
      (.ok (), { world with files := nestedFiles content, store, events }) := by
  have hfind : Capture.find "status" outcome.status outcome.headers (.json outcome.body) =
      .ok (.json (.int 200)) := by
    rw [hstatus]
    rfl
  let layer : Layer := { entries := [("code", .string "200")], file := some nestedPath }
  let changed : World := { world with
    store := world.store.setLayer .global layer
    events := .set .global "code" "200" :: world.events }
  have hdepth : (Value.object layer.entries).depth ≤ changed.room := by
    change _ ≤ world.room
    rw [hroom]
    decide
  have hset : (Store.set .global "code" (.json (.int 200))).on world = layer.save.on changed := by
    unfold Store.set Store.replaceLayer Store.update
    rw [on_bind, on_note]
    dsimp only
    rw [on_bind, on_get]
    dsimp only
    rw [on_bind, on_modify]
    simp only [World.moved, hstore, changed, layer]
    rfl
  obtain ⟨content, events, hwritten⟩ := on_writeEntries_nested changed hfiles hdepth
  have hsave : layer.save.on changed = _ := hwritten
  unfold Capture.keep
  rw [on_bind, on_lift, hfind]
  dsimp only
  rw [on_bind, hset, hsave]
  exact ⟨content, changed.store, events, rfl⟩

/-- The request is run, and a directory stands in the place of the history file. -/
theorem exists_on_runTarget_capturing :
    ∃ ran, (runTarget { all := true } [capturing] {} false true capturing).on nestedWorld =
        (.ok (quietReport []), ran) ∧
      (∃ content, ran.files = nestedFiles content) ∧ ran.home = ["home"] ∧ ran.clock = 0 := by
  refine exists_on_runTarget (fun noted => ?_) (by decide +kernel) (fun _ _ h => h)
  let prepared : Prepared := { method := "GET", url := "http://h/", headers := [] }
  let outcome : Outcome := { status := 200, body := .string "" }
  let start := nestedWorld.moved nestedWorld.room noted
  have hready : capturing.IsReady {} prepared none start := ⟨by cbv, rfl, rfl⟩
  have hreply : Outcome.ofReply start.room none (start.replies start.calls) = .ok outcome := rfl
  obtain ⟨call, events, -, hrun⟩ := hready.on_run_of_reply hreply
  let between : World := (start.called call).moved start.room events
  have hstatus : outcome.status = 200 := rfl
  obtain ⟨content, store, kept, hkeep⟩ := on_keep_nested between hstatus rfl rfl rfl
  let ran : World := { between with files := nestedFiles content, store, events := kept }
  have hcaptures : (capturing.captures.forM (Capture.keep outcome)).on between = (.ok (), ran) := by
    have hone : capturing.captures.forM (Capture.keep outcome) =
        Capture.keep outcome ⟨.global, "code", "status"⟩ >>= fun _ => pure () := rfl
    rw [hone, on_bind, hkeep]
    rfl
  rw [← Request.run_eq_run_alone rfl [capturing]] at hrun
  refine ⟨ran, hrun.trans ?_, ⟨content, rfl⟩, rfl, rfl⟩
  exact capturing.on_conclude prepared [] start.elapsed 1 rfl hcaptures rfl

/-- A run that nothing stops leaves a directory in the place of the history file, which was missing:
the command ends well, and there is no entry. -/
theorem runRequests_nested :
    ∃ after, Holds nestedWorld [] ∧
      (runRequests { all := true } [capturing] {} [capturing]).on nestedWorld = (.ok 0, after) ∧
      ∀ entries, ¬ Holds after entries := by
  have hmissing : nestedWorld.find nestedWorld.historyPath = .error .noSuchFile := by
    rw [World.find, World.locate_historyPath_of_home rfl]
    rfl
  obtain ⟨ran, hrun, ⟨content, hfiles⟩, hhome, hclock⟩ := exists_on_runTarget_capturing
  have hnames := World.locate_historyPath_of_home hhome
  have hfind : ran.find ran.historyPath = .ok .directory := by
    rw [World.find, hnames, hfiles]
    rfl
  have hrecordable : IsRecordable (quietReport []) ran :=
    ⟨by decide +kernel, by decide +kernel, by rw [hclock]; rfl,
      World.contains_eq_false_of_locate hnames⟩
  have hsave := save_of_directory hfind hrecordable capturing.id
  refine ⟨ran, .missing hmissing, on_runRequests_singleton hrun hsave, fun entries hholds => ?_⟩
  cases hholds with
  | missing hnone =>
    rw [hfind] at hnone
    cases hnone
  | list hfile =>
    rw [hfind] at hfile
    cases hfile

end RequestScript.CommandLine
