import Mathlib
import RequestScript.Proofs.CommandLine.SetUp
import RequestScript.Proofs.CommandLine.Targets
import RequestScript.Proofs.Run.Credentials

/-!
# What the command tells of credentials

The command runs the requests of alike scripts alike: it ends with the same status in the same
world but for the calls that it made, and prints the same texts. What authorises is told neither by
the reports, with or without details, nor by the history, nor by the log.
-/

namespace RequestScript

open List (Forall₂)
open RequestScript.Action

namespace History

theorem steady_save (report : Report) (id : Option String) : Steady (save report id) := by
  have hpath : Reads path := .bind_get (fun _ => .pure _) fun _ _ _ => rfl
  unfold save
  refine (Steady.of_reads reads_load).bind fun history => ?_
  refine .bind_get (fun world => ?_) fun _ _ _ => rfl
  refine (Steady.lift _).bind fun moment => (Steady.lift _).bind fun entries => ?_
  have hwrite : Steady (do
      let path ← path
      let _ ← orRefused path (writeText path (Value.array entries).pretty)) :=
    (Steady.of_reads hpath).bind fun path =>
      (steady_orRefused path (steady_writeText _ _)).bind fun _ => .pure _
  dsimp only
  split
  · exact (Steady.throw _).bind fun _ => hwrite
  · exact hwrite

/-- Alike reports are saved alike. -/
theorem save_eq_of_alike {report other : Report} (h : report.Alike other) (id : Option String) :
    save other id = save report id := by
  unfold save
  simp only [h.entry_eq]

end History

namespace CommandLine

variable {arguments : Arguments} {requests others : List Request} {defaults : Defaults}

theorem mirrors_runTarget (hrequests : Forall₂ Request.Alike requests others) (headed first : Bool)
    {target last : Request} (h : target.Alike last) :
    Mirrors Report.Alike (runTarget arguments requests defaults headed first target)
      (runTarget arguments others defaults headed first last) := by
  have hname : last.displayName = target.displayName := by rw [h.eq]; rfl
  have hrun : Mirrors Report.Alike
      (do
        let report ← target.run requests defaults
        Action.print (← report.text arguments.verbose arguments.raw)
        return report)
      (do
        let report ← last.run others defaults
        Action.print (← report.text arguments.verbose arguments.raw)
        return report) := by
    refine (Request.mirrors_run hrequests h).bind fun {report other} hreport => ?_
    rw [hreport.text_eq]
    refine (Steady.lift _).mirrors.bind_eq fun text => ?_
    exact (Steady.note _).mirrors.bind_eq fun _ => .pure hreport
  unfold runTarget
  rw [hname]
  cases headed with
  | false => exact hrun
  | true =>
    cases first with
    | false =>
      refine (Steady.note _).mirrors.bind_eq fun _ => ?_
      exact (Steady.note _).mirrors.bind_eq fun _ => hrun
    | true => exact (Steady.note _).mirrors.bind_eq fun _ => hrun

/-- Alike targets are served alike. -/
theorem mirrors_runTargets (hrequests : Forall₂ Request.Alike requests others) (headed first : Bool)
    {targets lasts : List Request} (htargets : Forall₂ Request.Alike targets lasts) :
    Mirrors Eq (runTargets arguments requests defaults headed first targets)
      (runTargets arguments others defaults headed first lasts) := by
  induction htargets generalizing first with
  | nil => exact .pure rfl
  | @cons target last rest lasts htarget _ ih =>
    have hid : last.id = target.id := by rw [htarget.eq]
    rw [runTargets_cons, runTargets_cons, hid]
    refine (mirrors_runTarget hrequests headed first htarget).bind fun {report other} hreport => ?_
    rw [History.save_eq_of_alike hreport, hreport.isPassed_eq]
    refine (History.steady_save report target.id).mirrors.bind_eq fun _ => ?_
    exact (ih false).bind_eq fun _ => .pure rfl

/-- The targets of alike scripts are alike. -/
theorem rel_targets? (arguments : Arguments) (h : Forall₂ Request.Alike requests others) :
    Option.Rel (Forall₂ Request.Alike) (targets? arguments requests)
      (targets? arguments others) := by
  unfold targets?
  split
  · exact .some h
  · rcases cases_of_rel (Request.rel_select? h arguments.id arguments.name) with
      ⟨hnone, hmissing⟩ | ⟨target, last, hsome, hfound, halike⟩
    · rw [hnone, hmissing]
      exact .none
    · rw [hsome, hfound]
      exact .some (.cons halike .nil)

/-! ## What is printed -/

theorem outputOf_masked (events : List Event) :
    outputOf (events.map Event.masked) = outputOf events := by
  unfold outputOf
  rw [List.map_map]
  refine congrArg String.join (List.map_congr_left fun event _ => ?_)
  cases event <;> rfl

theorem errorsOf_masked (debug : Bool) (events : List Event) :
    errorsOf debug (events.map Event.masked) = errorsOf debug events := by
  unfold errorsOf
  rw [List.map_map]
  refine congrArg String.join (List.map_congr_left fun event _ => ?_)
  cases event <;> rfl

/-- What has been printed is not masked. -/
theorem printed_eq {events others : List Event}
    (h : events.map Event.masked = others.map Event.masked) :
    outputOf events.reverse = outputOf others.reverse ∧
      ∀ debug, errorsOf debug events.reverse = errorsOf debug others.reverse := by
  refine ⟨?_, fun debug => ?_⟩
  · rw [← outputOf_masked, ← outputOf_masked others.reverse, List.map_reverse, List.map_reverse, h]
  · rw [← errorsOf_masked, ← errorsOf_masked _ others.reverse, List.map_reverse, List.map_reverse,
      h]

/-! ## Runs of alike scripts -/

theorem agrees_serve (hlist : arguments.list = false) (hresolve : arguments.resolve = false)
    (file : String) {document other : Document} (h : document.Alike other) :
    Agrees Eq (serve arguments file document) (serve arguments file other) := by
  unfold serve
  rw [hlist, hresolve]
  simp only [Bool.false_eq_true, if_false]
  refine .after _ fun path => .after _ fun settings => .after _ fun values => ?_
  refine .after _ fun _ => .after _ fun _ => ?_
  rcases cases_of_rel (rel_targets? arguments h.requests) with
    ⟨hnone, hmissing⟩ | ⟨targets, lasts, hsome, hfound, halike⟩
  · rw [hnone, hmissing]
    exact ((Steady.note _).mirrors.bind_eq fun _ => .pure rfl).agrees
  · rw [hsome, hfound]
    refine .after _ fun defaults => Mirrors.agrees ?_
    unfold runRequests
    dsimp only
    rw [halike.length_eq]
    exact (mirrors_runTargets h.requests _ _ halike).bind_eq fun _ => .pure rfl

/-- **What the command tells of credentials.** Of two scripts that differ in nothing but the literal
values of `authorization` headers, in requests or in configuration blocks, the one is run as the
other: where no fault escapes, the command ends with the same status, in the same world but for the
calls that it has noted, so that the history file and the files that keep variables are the same,
and it prints the same on both outputs. The calls differ in nothing but these values. -/
theorem serve_of_alike (hlist : arguments.list = false) (hresolve : arguments.resolve = false)
    (file : String) {document other : Document} (h : document.Alike other) {world after : World}
    {status : Nat} (hrun : (serve arguments file document).on world = (.ok status, after)) :
    ∃ events, (serve arguments file other).on world = (.ok status, after.moved after.room events) ∧
      events.map Event.masked = after.events.map Event.masked ∧
      outputOf events.reverse = outputOf after.events.reverse ∧
      ∀ debug, errorsOf debug events.reverse = errorsOf debug after.events.reverse := by
  obtain ⟨_, events, hother, hevents, rfl⟩ :=
    agrees_serve hlist hresolve file h world status after hrun
  exact ⟨events, hother, hevents, printed_eq hevents⟩

/-! ## A script with a token -/

/-- A script whose request gets a token from a configuration block. -/
def guardedScript (token : String) : Document :=
  let block : ConfigBlock :=
    { baseUrl := some "http://host", headers := [("Authorization", token)] }
  (Document.ofReading { requests := [{ url := "/" }], configs := [block] } 0).withFile "/a.rext"

theorem guardedScript_alike {token other : String} (h : IsLiteral token)
    (hother : IsLiteral other) : (guardedScript token).Alike (guardedScript other) := by
  have hname : Headers.IsCredential "Authorization" := by decide +kernel
  refine Document.withFile_alike ?_ _
  refine Document.ofReading_alike (.cons ⟨rfl, .refl _, .none⟩ .nil) (.cons ⟨rfl, ?_⟩ .nil) rfl rfl
  exact .cons ⟨rfl, .inr ⟨hname, h, hother⟩⟩ .nil

/-- The request of the script, with its token. -/
def guardedRequest : Request :=
  let block : ConfigBlock :=
    { baseUrl := some "http://host", headers := [("Authorization", "Bearer a")] }
  { url := "http://host/"
    headers := block.headers
    config := some block
    filePath := some "/a.rext" }

/-- The request of the script is run, and its run is saved. -/
theorem exists_on_runRequests_guarded :
    ∃ after, (runRequests {} [guardedRequest] {} [guardedRequest]).on equippedWorld =
      (.ok 0, after) := by
  have hok : ((runTarget {} [] {} false true guardedRequest).on equippedWorld).1.isOk = true := by
    decide +kernel
  have hreport : ((runTarget {} [] {} false true guardedRequest).on equippedWorld).1.toOption.map
      (fun report => (report.status, report.duration, report.isPassed)) = some (200, 0, true) := by
    decide +kernel
  have hran : (fun ran : World => (ran.files.nodes, ran.home, ran.clock))
      ((runTarget {} [] {} false true guardedRequest).on equippedWorld).2 = ([], [], 0) := by
    decide +kernel
  obtain ⟨report, ran, hrun⟩ := exists_on_of_isOk hok
  rw [hrun] at hreport hran
  simp only [Except.toOption, Option.map_some, Option.some.injEq, Prod.mk.injEq] at hreport hran
  obtain ⟨hstatus, hduration, hpassed⟩ := hreport
  obtain ⟨hnodes, hhome, hclock⟩ := hran
  have hfind := World.find_of_root hhome (congrArg FileTree.mk hnodes)
  have hnull := World.contains_eq_false_of_locate (World.locate_historyPath_of_root hhome)
  have hrecordable : History.IsRecordable report ran :=
    ⟨by rw [hstatus]; decide +kernel, by rw [hduration]; decide +kernel, by rw [hclock]; rfl, hnull⟩
  obtain ⟨saved, hsave⟩ := History.exists_on_save (History.load_of_missing hfind) hrecordable
    guardedRequest.id
  have halone : runTarget {} [guardedRequest] {} false true guardedRequest =
      runTarget {} [] {} false true guardedRequest := by
    unfold runTarget
    rw [Request.run_eq_run_alone rfl]
  rw [← halone] at hrun
  refine ⟨saved, (on_runRequests_singleton hrun hsave).trans ?_⟩
  rw [hpassed]
  rfl

theorem exists_on_serve_guardedScript :
    ∃ after, (serve {} "a.rext" (guardedScript "Bearer a")).on World.quiet = (.ok 0, after) := by
  have hrequests : (guardedScript "Bearer a").requests = [guardedRequest] := by decide +kernel
  have htargets : targets? {} (guardedScript "Bearer a").requests = some [guardedRequest] := by
    rw [hrequests]
    rfl
  obtain ⟨after, hserve⟩ := exists_on_runRequests_guarded
  refine ⟨after, ?_⟩
  rw [serve_eq_of_targets rfl rfl htargets, on_bind, on_setUp_quiet rfl rfl rfl, hrequests]
  exact hserve

/-- One token or another one in a configuration block. -/
theorem serve_of_alike_guardedScript :
    ∃ after events,
      (serve {} "a.rext" (guardedScript "Bearer a")).on World.quiet = (.ok 0, after) ∧
      (serve {} "a.rext" (guardedScript "Bearer b")).on World.quiet =
        (.ok 0, after.moved after.room events) ∧
      outputOf events.reverse = outputOf after.events.reverse := by
  obtain ⟨after, hserve⟩ := exists_on_serve_guardedScript
  have halike : (guardedScript "Bearer a").Alike (guardedScript "Bearer b") :=
    guardedScript_alike (by decide +kernel) (by decide +kernel)
  have hlist : ({} : Arguments).list = false := rfl
  have hresolve : ({} : Arguments).resolve = false := rfl
  obtain ⟨events, hother, -, hprinted, -⟩ := serve_of_alike hlist hresolve "a.rext" halike hserve
  exact ⟨after, events, hserve, hother, hprinted⟩

end CommandLine

end RequestScript
