import RequestScript.CommandLine
import RequestScript.Proofs.History
import RequestScript.Proofs.Run.Alone

/-!
# Runs of the command

The command runs its targets one after the other, prints a report on each and saves it in the
history. It goes on to the last of them and ends with the status that the reports call for, unless a
run is stopped, or something stops it from being saved.
-/

namespace RequestScript.CommandLine

open RequestScript.Action

variable {arguments : Arguments} {requests : List Request} {defaults : Defaults}
  {headed first : Bool}

/-- Runs a target and prints a report on it. -/
def runTarget (arguments : Arguments) (requests : List Request) (defaults : Defaults)
    (headed first : Bool) (target : Request) : Action Report := do
  if headed then
    if !first then Action.print ""
    Action.print ("### " ++ target.displayName)
  let report ← target.run requests defaults
  Action.print (← report.text arguments.verbose arguments.raw)
  return report

/-- From one world to another one in which targets have been run, and each of them has been saved
when the next one is run. -/
inductive Serves (arguments : Arguments) (requests : List Request) (defaults : Defaults)
    (headed : Bool) : Bool → List Request → List Report → World → World → Prop
  | nil {first : Bool} {world : World} :
      Serves arguments requests defaults headed first [] [] world world
  | cons {first : Bool} {target : Request} {rest : List Request} {report : Report}
      {reports : List Report} {world ran saved after : World} :
      (runTarget arguments requests defaults headed first target).on world = (.ok report, ran) →
      History.IsSaved report target.id ran saved →
      Serves arguments requests defaults headed false rest reports saved after →
      Serves arguments requests defaults headed first (target :: rest) (report :: reports) world
        after

/-- What stops a target: its run, or what stops it from being saved. -/
def Fails (action : Action Report) (world after : World) (fault : Fault) : Prop :=
  action.on world = (.error fault, after) ∨
    ∃ report, action.on world = (.ok report, after) ∧ History.Stops report after fault

theorem runTargets_cons (target : Request) (rest : List Request) :
    runTargets arguments requests defaults headed first (target :: rest) = (do
      let report ← runTarget arguments requests defaults headed first target
      History.save report target.id
      let others ← runTargets arguments requests defaults headed false rest
      return report.isPassed && others) := by
  unfold runTarget
  rw [runTargets]
  cases headed <;> cases first <;> simp

/-- What is printed above the report on a target is noted before the target is run. -/
theorem exists_on_runTarget_eq (arguments : Arguments) (requests : List Request)
    (defaults : Defaults) (headed first : Bool) (target : Request) (world : World) : ∃ noted,
    (runTarget arguments requests defaults headed first target).on world =
      on (do
        let report ← target.run requests defaults
        Action.print (← report.text arguments.verbose arguments.raw)
        return report) (world.moved world.room noted) := by
  unfold runTarget
  cases headed with
  | false => exact ⟨world.events, rfl⟩
  | true => cases first <;> exact ⟨_, rfl⟩

/-- A target ends with its report where that one has a text, whatever is noted before it is run. -/
theorem exists_on_runTarget {target : Request} {report : Report} {world : World} {p : World → Prop}
    (hrun : ∀ noted, ∃ after, (target.run requests defaults).on (world.moved world.room noted) =
      (.ok report, after) ∧ p after)
    (htext : (report.text arguments.verbose arguments.raw).isOk = true)
    (hprinted : ∀ after events, p after → p (after.moved after.room events)) :
    ∃ after, (runTarget arguments requests defaults headed first target).on world =
      (.ok report, after) ∧ p after := by
  obtain ⟨noted, htarget⟩ :=
    exists_on_runTarget_eq arguments requests defaults headed first target world
  obtain ⟨after, hreport, hafter⟩ := hrun noted
  cases hlines : report.text arguments.verbose arguments.raw with
  | error fault =>
    rw [hlines] at htext
    cases htext
  | ok text =>
    refine ⟨after.moved after.room (.printed (Text.withoutControls (text ++ "\n")) :: after.events),
      ?_, hprinted _ _ hafter⟩
    rw [htarget, on_bind_of_ok hreport]
    rw [on_bind, on_lift, hlines]
    rfl

/-- One report comes from each target. -/
theorem Serves.length_eq {targets : List Request} {reports : List Report} {world after : World}
    (h : Serves arguments requests defaults headed first targets reports world after) :
    reports.length = targets.length := by
  induction h with
  | nil => rfl
  | cons _ _ _ ih => rw [List.length_cons, List.length_cons, ih]

/-- The last target is saved last. -/
theorem Serves.isSaved_last {before : List Request} {target : Request} {reports : List Report}
    {world after : World}
    (h : Serves arguments requests defaults headed first (before ++ [target]) reports world after) :
    ∃ earlier report ran, reports = earlier ++ [report] ∧
      History.IsSaved report target.id ran after := by
  induction before generalizing first reports world with
  | nil =>
    cases h with
    | cons _ hsaved hrest =>
      cases hrest
      exact ⟨[], _, _, rfl, hsaved⟩
  | cons _ before ih =>
    cases h with
    | cons _ _ hrest =>
      obtain ⟨earlier, last, ran, rfl, hsaved⟩ := ih hrest
      exact ⟨_ :: earlier, last, ran, rfl, hsaved⟩

/-- Every target is run, unless one of them is stopped. -/
theorem runTargets_cases (first : Bool) (targets : List Request) (world : World) :
    (∃ reports after, Serves arguments requests defaults headed first targets reports world after ∧
      (runTargets arguments requests defaults headed first targets).on world =
        (.ok (reports.all (·.isPassed)), after)) ∨
    ∃ before target rest reports between after fault, targets = before ++ target :: rest ∧
      Serves arguments requests defaults headed first before reports world between ∧
      (runTargets arguments requests defaults headed first targets).on world =
        (.error fault, after) ∧
      Fails (runTarget arguments requests defaults headed (first && before.isEmpty) target) between
        after fault := by
  induction targets generalizing first world with
  | nil => exact .inl ⟨[], world, .nil, rfl⟩
  | cons target rest ih =>
    rw [runTargets_cons, on_bind]
    rcases hrun : (runTarget arguments requests defaults headed first target).on world with
      ⟨fault | report, ran⟩
    · refine .inr ⟨[], target, rest, [], world, ran, fault, rfl, .nil, rfl, .inl ?_⟩
      simpa using hrun
    dsimp only
    rw [on_bind]
    rcases History.save_cases report target.id ran with
      ⟨fault, hstops, hsave⟩ | ⟨saved, hsaved, hsave⟩
    · rw [hsave]
      refine .inr ⟨[], target, rest, [], world, ran, fault, rfl, .nil, rfl,
        .inr ⟨report, ?_, hstops⟩⟩
      simpa using hrun
    rw [hsave]
    dsimp only
    rw [on_bind]
    rcases ih false saved with ⟨reports, after, hserves, hrest⟩ |
      ⟨before, last, others, reports, between, after, fault, rfl, hserves, hrest, hfails⟩
    · rw [hrest]
      exact .inl ⟨report :: reports, after, .cons hrun hsaved hserves, rfl⟩
    · rw [hrest]
      refine .inr ⟨target :: before, last, others, report :: reports, between, after, fault, rfl,
        .cons hrun hsaved hserves, rfl, ?_⟩
      simpa using hfails

/-- **A run of the command goes on to its last target, unless a target is stopped.** Either every
target is run, the status is 0 where all of them have passed and 1 otherwise, and the last of them
is the first entry of the history; or a target is stopped, by its run or by what stops a run from
being saved. -/
theorem runRequests_cases (arguments : Arguments) (requests : List Request) (defaults : Defaults)
    (targets : List Request) (world : World) :
    let headed : Bool := 1 < targets.length
    (∃ reports after, Serves arguments requests defaults headed true targets reports world after ∧
      (runRequests arguments requests defaults targets).on world =
        (.ok (if reports.all (·.isPassed) then 0 else 1), after) ∧
      ∀ before target, targets = before ++ [target] → ∃ earlier report ran,
        reports = earlier ++ [report] ∧ History.IsSaved report target.id ran after) ∨
    ∃ before target rest reports between after fault, targets = before ++ target :: rest ∧
      Serves arguments requests defaults headed true before reports world between ∧
      (runRequests arguments requests defaults targets).on world = (.error fault, after) ∧
      Fails (runTarget arguments requests defaults headed before.isEmpty target) between after
        fault := by
  intro headed
  have hrequests : runRequests arguments requests defaults targets =
      runTargets arguments requests defaults headed true targets >>= fun passed =>
        pure (if passed then 0 else 1) := rfl
  rw [hrequests, on_bind]
  rcases runTargets_cases true targets world with ⟨reports, after, hserves, hrun⟩ |
    ⟨before, target, rest, reports, between, after, fault, htargets, hserves, hrun, hfails⟩
  · refine .inl ⟨reports, after, hserves, by rw [hrun]; rfl, ?_⟩
    rintro before target rfl
    exact hserves.isSaved_last
  · exact .inr ⟨before, target, rest, reports, between, after, fault, htargets, hserves,
      by rw [hrun], hfails⟩

/-- One target that is run and saved. -/
theorem on_runRequests_singleton {target : Request} {report : Report} {world ran saved : World}
    (hrun : (runTarget arguments requests defaults false true target).on world = (.ok report, ran))
    (hsave : (History.save report target.id).on ran = (.ok (), saved)) :
    (runRequests arguments requests defaults [target]).on world =
      (.ok (if report.isPassed then 0 else 1), saved) := by
  unfold runRequests
  dsimp only
  rw [List.length_singleton, show decide (1 < 1) = false from rfl, runTargets_cons, bind_assoc,
    on_bind, hrun]
  dsimp only
  rw [bind_assoc, on_bind, hsave, runTargets]
  cases report.isPassed <;> rfl

/-- A target is not saved in a history that is no list, and no other target is run. -/
theorem runTargets_of_not_list {target : Request} {rest : List Request} {world ran : World}
    {report : Report} {history : Value} {moment : Moment}
    (hrun : (runTarget arguments requests defaults headed first target).on world =
      (.ok report, ran))
    (hload : (History.load.on ran).1 = .ok history) (hlist : ∀ entries, history ≠ .array entries)
    (hclock : Moment.ofMilliseconds ran.clock = .ok moment) :
    (runTargets arguments requests defaults headed first (target :: rest)).on world =
      (.error .notAList, ran) := by
  rw [runTargets_cons, on_bind_of_ok hrun]
  rw [on_bind, History.save_of_not_list hload hlist hclock]

/-- A world where the history file holds an object. -/
def objectWorld : World :=
  { World.quiet with
    home := ["home"]
    files := ⟨[(["home"], .directory), (["home", History.fileName], .file "\x7b\x7d".toUTF8)]⟩ }

theorem load_of_object {world : World} (hfiles : world.files = objectWorld.files)
    (hhome : world.home = ["home"]) : (History.load.on world).1 = .ok (.object []) := by
  have hfind := World.find_recording hfiles hhome
  have htext : textOfBytes "\x7b\x7d".toUTF8 = .ok "\x7b\x7d" := by decide +kernel
  rw [History.load_of_find hfind htext]
  rfl

/-- Two requests that nothing stops, with a history that is an object: the first request is the only
one that is run, and no status comes back. -/
theorem runRequests_of_object :
    let requests : List Request := [{ url := "/one" }, { url := "/two" }]
    (∀ target ∈ requests, ∀ first,
      ((runTarget {} requests {} true first target).on objectWorld).1.isOk = true) ∧
      ∃ after, (runRequests {} requests {} requests).on objectWorld = (.error .notAList, after) ∧
        after.calls = 1 := by
  intro requests
  have halone : ∀ target ∈ requests, ∀ first,
      runTarget {} requests {} true first target = runTarget {} [] {} true first target := by
    intro target htarget first
    have hpre : target.pre = [] := by
      rcases List.mem_cons.mp htarget with rfl | hrest
      · rfl
      · rw [List.mem_singleton.mp hrest]
    unfold runTarget
    rw [Request.run_eq_run_alone hpre]
  have hruns : ∀ target ∈ requests, ∀ first,
      ((runTarget {} [] {} true first target).on objectWorld).1.isOk = true := by
    decide +kernel
  refine ⟨fun target htarget first => ?_, ?_⟩
  · rw [halone target htarget first]
    exact hruns target htarget first
  · obtain ⟨report, ran, hrun⟩ := exists_on_of_isOk (hruns _ List.mem_cons_self true)
    have hran : (ran.files.nodes, ran.home, ran.clock, ran.calls) =
        (objectWorld.files.nodes, ["home"], 0, 1) := by
      have hsecond : ((runTarget {} [] {} true true { url := "/one" }).on objectWorld).2 = ran :=
        congrArg Prod.snd hrun
      rw [← hsecond]
      decide +kernel
    simp only [Prod.mk.injEq] at hran
    obtain ⟨hnodes, hhome, hclock, hcalls⟩ := hran
    have hmoment : ∃ moment, Moment.ofMilliseconds ran.clock = .ok moment := by
      rw [hclock]
      exact ⟨_, rfl⟩
    obtain ⟨moment, hmoment⟩ := hmoment
    rw [← halone _ List.mem_cons_self] at hrun
    have hstopped : (runTargets {} requests {} true true requests).on objectWorld =
        (.error .notAList, ran) :=
      runTargets_of_not_list hrun (load_of_object (congrArg FileTree.mk hnodes) hhome) nofun hmoment
    exact ⟨ran, on_bind_error hstopped, hcalls⟩

end RequestScript.CommandLine
