import RequestScript.Proofs.Run.Attempts
import RequestScript.Proofs.Run.Dispatches
import RequestScript.Proofs.Script.Merging

/-!
# The calls of a run

Every call of a run is an attempt of one of its requests, and the reports on the run and on the
runs before it count the attempts. A request is sent at least once and at most as often as it
allows, unless a configuration block asks for fewer than no attempts after the first.
-/

namespace RequestScript

open Text

/-! ## All reports of a run -/

mutual

/-- A report behind all the reports on the runs before it, each of them behind its own. -/
def Report.all : Report → List Report
  | report@{ before, .. } => Report.allOf before ++ [report]
termination_by structural report => report

/-- Reports, each of them behind all the reports on the runs before it. -/
def Report.allOf : List Report → List Report
  | [] => []
  | report :: rest => report.all ++ Report.allOf rest
termination_by structural reports => reports

end

theorem Report.all_eq (report : Report) : report.all = allOf report.before ++ [report] := by
  cases report
  rfl

/-- A report counts attempts as a request allows them: at least one, and no more than the request
allows, where it allows any. -/
structure Report.Counts (report : Report) (request : Request) : Prop where
  /-- The report tells how many attempts the request allows. -/
  allowed : report.maxAttempts = request.maxAttempts
  /-- There is an attempt. -/
  pos : 1 ≤ report.attempts
  /-- There are no more attempts than the request allows, but for the first one. -/
  le : report.attempts ≤ max 1 request.maxAttempts

/-- Reports account for the calls from one world to another one: each of them counts the attempts
of one request, in the order of the requests. -/
structure Report.Account (requests : List Request) (reports : List Report) (world after : World) :
    Prop where
  /-- There are as many calls as attempts. -/
  calls : (after.calls : Int) = world.calls + (reports.map Report.attempts).sum
  /-- The attempts of each request are counted. -/
  counts : List.Forall₂ (fun request report => report.Counts request) requests reports

namespace Report

theorem allOf_append (front back : List Report) :
    allOf (front ++ back) = allOf front ++ allOf back := by
  induction front with
  | nil => rfl
  | cons report rest ih => rw [List.cons_append, allOf, allOf, ih, List.append_assoc]

theorem allOf_singleton (report : Report) : allOf [report] = report.all :=
  List.append_nil _

namespace Account

variable {first second : List Request} {front back : List Report} {world between after : World}

theorem nil (world : World) : Account [] [] world world :=
  ⟨(Int.add_zero _).symm, .nil⟩

theorem append (hfirst : Account first front world between)
    (hsecond : Account second back between after) :
    Account (first ++ second) (front ++ back) world after where
  calls := by
    rw [List.map_append, List.sum_append, hsecond.calls, hfirst.calls, Int.add_assoc]
  counts := List.rel_append hfirst.counts hsecond.counts

/-- Every report counts the attempts of some request. -/
theorem exists_counts (h : Account first front world after) :
    ∀ report ∈ front, ∃ request ∈ first, report.Counts request := by
  obtain ⟨-, hcounts⟩ := h
  induction hcounts with
  | nil => exact nofun
  | cons hcounts _ ih =>
    refine List.forall_mem_cons.mpr ⟨⟨_, List.mem_cons_self, hcounts⟩, fun report hmem => ?_⟩
    obtain ⟨request, hrequest, hreport⟩ := ih report hmem
    exact ⟨request, List.mem_cons_of_mem _ hrequest, hreport⟩

end Account

end Report

namespace Request

open Report

/-! ## One request -/

section One

variable {request : Request} {defaults : Defaults} {world after : World}

/-- There are as many calls as attempts, and no more than are left. -/
theorem Course.calls_eq {call : Call} {timeout : Option Seconds} {delay made : Int} {left : Nat}
    {outcome : Outcome} {attempts : Int}
    (h : Course call timeout delay left made world outcome attempts after) :
    ∃ more ≤ left, attempts = made + more ∧ after.calls = world.calls + 1 + more := by
  have hcall {world between : World} (h : ∀ seconds, World.Tries call seconds 1 world between) :
      between.calls = world.calls + 1 := by
    obtain ⟨_, _, rfl, _⟩ := h (Double.zero false)
    rfl
  induction h with
  | last htries _ _ => exact ⟨0, Nat.zero_le _, by simp, hcall htries⟩
  | @again _ _ _ world between waited _ _ seconds htries _ _ hwait _ ih =>
    obtain ⟨more, hmore, hattempts, hcalls⟩ := ih
    obtain ⟨-, hwaited, -⟩ := (htries seconds).same hwait
    exact ⟨more + 1, by omega, by omega, by omega⟩

/-- A request that is run after others is accounted for by its report. -/
theorem account_of_runAfter {start : Int} {before : List Report} {report : Report}
    (h : (request.runAfter defaults start before).on world = (.ok report, after)) :
    report.before = before ∧ Report.Account [request] [report] world after := by
  obtain ⟨prepared, ready, _, outcome, made, last, hprepare, -, hattempt, hconclude⟩ :=
    runAfter_steps h
  -- Calls are made by the attempts only.
  have hready : ready.calls = world.calls := by
    obtain ⟨_, _, rfl, _⟩ := (draws_prepare request).rel_of_on hprepare
    rfl
  have hafter : after.calls = last.calls := by
    obtain ⟨_, _, _, rfl, _⟩ :=
      (keeps_conclude request prepared before start outcome made).rel_of_on hconclude
    rfl
  obtain ⟨_, _, hattempts, hallowed, hbefore⟩ := fields_of_conclude hconclude
  obtain ⟨more, hmore, hmade, hcalls⟩ := (course_of_attempt hattempt).calls_eq
  refine ⟨hbefore, ?_, .cons ⟨hallowed, ?_, ?_⟩ .nil⟩
  · rw [List.map_singleton, List.sum_singleton]
    omega
  · omega
  · omega

end One

/-! ## All requests of a run -/

section All

variable {request : Request} {requests : List Request} {defaults : Defaults} {world after : World}

mutual

/-- The reports of a step account for its requests. -/
theorem account_of_runStep (step : Step) {world after : World} {report : Option Report}
    (h : (runStep defaults step).on world = (.ok report, after)) :
    Account step.requests (allOf report.toList) world after := by
  match step with
  | .run request before =>
    rw [runStep] at h
    obtain ⟨own, _, hdeeper, hreturn⟩ := Action.on_bind_ok h
    obtain ⟨hown, rfl⟩ := Prod.mk.inj hreturn
    obtain rfl := Except.ok.inj hown
    obtain ⟨inner, hinner, rfl⟩ := Action.on_deeper_ok hdeeper
    obtain ⟨_, _, hstart, hrest⟩ := Action.on_bind_ok hinner
    obtain ⟨-, rfl⟩ := Prod.mk.inj hstart
    obtain ⟨reports, between, hbefore, hrun⟩ := Action.on_bind_ok hrest
    have hnested := account_of_runSteps before hbefore
    obtain ⟨rfl, hself⟩ := account_of_runAfter hrun
    have hall := hnested.append hself
    rw [Step.requests, Option.toList_some, allOf_singleton, Report.all_eq]
    -- Room is no matter of calls.
    exact ⟨hall.calls, hall.counts⟩
  | .repeated id | .unknown id =>
    rw [runStep] at h
    obtain ⟨_, _, hlog, hreturn⟩ := Action.on_bind_ok h
    obtain ⟨-, rfl⟩ := Prod.mk.inj hlog
    obtain ⟨hnone, rfl⟩ := Prod.mk.inj hreturn
    obtain rfl := Except.ok.inj hnone
    have hall := Account.nil world
    exact ⟨hall.calls, hall.counts⟩
termination_by structural step

/-- The reports of steps account for their requests. -/
theorem account_of_runSteps (steps : List Step) {world after : World} {reports : List Report}
    (h : (runSteps defaults steps).on world = (.ok reports, after)) :
    Account (Step.allRequests steps) (allOf reports) world after := by
  match steps with
  | [] =>
    rw [runSteps] at h
    obtain ⟨hnil, rfl⟩ := Prod.mk.inj h
    obtain rfl := Except.ok.inj hnil
    exact .nil _
  | step :: rest =>
    rw [runSteps] at h
    obtain ⟨report, between, hstep, htail⟩ := Action.on_bind_ok h
    obtain ⟨others, _, hrest, hreturn⟩ := Action.on_bind_ok htail
    obtain ⟨hreports, rfl⟩ := Prod.mk.inj hreturn
    obtain rfl := Except.ok.inj hreports
    rw [Step.allRequests, allOf_append]
    exact (account_of_runStep step hstep).append (account_of_runSteps rest hrest)
termination_by structural steps

end

/-- The reports of a run account for its order. -/
theorem account_of_run {order : List Request} {report : Report}
    (h : (request.run requests defaults).on world = (.ok report, after))
    (horder : Plan.IsOrder requests request order) : Account order report.all world after := by
  unfold run at h
  obtain ⟨_, _, hstart, hrest⟩ := Action.on_bind_ok h
  obtain ⟨-, rfl⟩ := Prod.mk.inj hstart
  obtain ⟨reports, _, hbefore, hrun⟩ := Action.on_bind_ok hrest
  obtain ⟨rfl, hself⟩ := account_of_runAfter hrun
  rw [Plan.isOrder_iff.mp horder, Report.all_eq]
  exact (account_of_runSteps _ hbefore).append hself

end All

end Request

/-! ## Requests of a script -/

namespace Request

theorem one_le_maxAttempts {request : Request} (h : ∀ retry ∈ request.retry, 0 ≤ retry.count) :
    1 ≤ request.maxAttempts := by
  unfold maxAttempts
  split
  · next retry hretry => exact Int.add_le_add_right (h retry hretry) 1
  · exact Int.le_refl 1

/-- What the lines of a block say allows one attempt at least. -/
theorem retry_ofSayings (first : Nat) {sayings : List ScriptLine}
    (h : ∀ said ∈ sayings, said.WellFormed) :
    ∀ retry ∈ (ofSayings first sayings).retry, 0 ≤ retry.count := by
  induction sayings using List.reverseRecOn with
  | nil => exact nofun
  | append_singleton sayings said ih =>
    have hfront := ih fun earlier hmem => h earlier (List.mem_append_left _ hmem)
    have hsaid := h said (by simp)
    rw [ofSayings, List.foldl_append, ← ofSayings, List.foldl_cons, List.foldl_nil]
    cases said with
    | comment | method | header | other => exact hfront
    | directive content =>
      cases content with
      | none => exact hfront
      | some content =>
        cases content with
        | retry kept => exact fun retry hretry => Option.some.inj hretry ▸ hsaid
        | _ => exact hfront

end Request

namespace Document

variable {text : String} {document : Document} {request : Request}

/-- A request of a script allows an attempt, unless its configuration block asks for a negative
number of attempts after the first, and the request does not say itself how many it wants. -/
theorem exists_block_of_maxAttempts_lt (hparse : parse text = .ok document)
    (hmem : request ∈ document.requests) (h : request.maxAttempts < 1) :
    ∃ block ∈ document.configs, ∃ count, request.config = some block ∧
      block.retries = some count ∧ count < 0 ∧ request.retry = some { count } := by
  obtain ⟨own, htold, rfl⟩ := exists_isTold_of_mem_requests hparse hmem
  have hown : ∀ retry ∈ own.retry, 0 ≤ retry.count := by
    have hsame := congrArg Request.retry htold.bodiless
    change own.retry = _ at hsame
    rw [hsame]
    exact Request.retry_ofSayings _ wellFormed_of_mem_sayings
  unfold resolveConfig at h ⊢
  cases hblock : configFor? document.configs
      (applyDefaults document.collection document.tags own) with
  | none =>
    simp only [hblock] at h
    exact absurd (Request.one_le_maxAttempts hown) (Int.not_le.mpr h)
  | some block =>
    simp only [hblock] at h
    refine ⟨block, mem_of_configFor? hblock, ?_⟩
    have hretry : (applyConfig block _).retry = own.retry.or _ :=
      retry_applyConfig block (applyDefaults document.collection document.tags own)
    -- A number of attempts that is not negative would allow an attempt.
    have hneg : ∃ retry, (applyConfig block
        (applyDefaults document.collection document.tags own)).retry = some retry ∧
        retry.count < 0 := by
      by_contra hall
      refine absurd (Request.one_le_maxAttempts fun retry hsome => ?_) (Int.not_le.mpr h)
      exact Int.not_lt.mp fun hneg => hall ⟨retry, hsome, hneg⟩
    obtain ⟨retry, hsome, hneg⟩ := hneg
    rw [hretry, Option.or_eq_some_iff] at hsome
    rcases hsome with hgiven | ⟨hnone, hasks⟩
    · exact absurd (hown retry hgiven) (Int.not_le.mpr hneg)
    · obtain ⟨count, hcount, rfl⟩ := Option.map_eq_some_iff.mp hasks
      refine ⟨count, rfl, (Option.filter_eq_some_iff.mp hcount).1, hneg, ?_⟩
      rw [hretry, hnone, Option.none_or, hcount]
      rfl

end Document

namespace Request

/-- **The calls of a run**, for every script, every request of it, every store and whatever comes
back. A run that no fault stops makes as many calls as all reports on it and on the runs before it
count attempts. Each of them counts at least one attempt and no more than it allows, unless a
configuration block with a negative number of retries allows none: then there is one attempt. -/
theorem run_counts_calls {text : String} {document : Document}
    (hparse : Document.parse text = .ok document) {request : Request}
    (hmem : request ∈ document.requests) {defaults : Defaults} {world after : World}
    {report : Report}
    (hrun : (request.run document.requests defaults).on world = (.ok report, after)) :
    (after.calls : Int) = world.calls + (report.all.map Report.attempts).sum ∧
      ∀ node ∈ report.all, 1 ≤ node.attempts ∧ node.attempts ≤ max 1 node.maxAttempts ∧
        (node.maxAttempts < 1 → ∃ other ∈ document.requests, ∃ block ∈ document.configs,
          ∃ count, other.config = some block ∧ block.retries = some count ∧ count < 0 ∧
            other.retry = some { count } ∧ node.maxAttempts = count + 1) := by
  obtain ⟨order, horder⟩ : ∃ order, Plan.IsOrder document.requests request order :=
    ⟨_, Plan.isOrder_iff.mpr rfl⟩
  have haccount := account_of_run hrun horder
  refine ⟨haccount.calls, fun node hnode => ?_⟩
  obtain ⟨other, hother, hnode⟩ := haccount.exists_counts node hnode
  have hrequest := horder.mem_requests hmem other hother
  refine ⟨hnode.pos, hnode.allowed ▸ hnode.le, fun hnone => ?_⟩
  rw [hnode.allowed] at hnone
  obtain ⟨block, hblock, count, hconfig, hretries, hneg, hretry⟩ :=
    Document.exists_block_of_maxAttempts_lt hparse hrequest hnone
  refine ⟨other, hrequest, block, hblock, count, hconfig, hretries, hneg, hretry, ?_⟩
  rw [hnode.allowed, maxAttempts, hretry]

/-- A request that is tried again, before another one that needs it. -/
def retriedScript : String :=
  "@id a1b2c3\n@retry 2\nPOST http://h/login\n\n###\n@id d4e5f6\n@pre a1b2c3\nGET http://h/\n"

theorem run_counts_calls_retried :
    let world : World := { World.quiet with
      replies := fun n => if n = 0 then .failure .timeout "" else .response 200 [] "" none 0 }
    let login : Request :=
      { method := "POST", url := "http://h/login", id := some "a1b2c3", retry := some { count := 2 }
        endLine := 3 }
    let request : Request :=
      { url := "http://h/", id := some "d4e5f6", pre := ["a1b2c3"], startLine := 4, endLine := 8 }
    Document.parse retriedScript = .ok { requests := [login, request] } ∧
      ∃ report after, (request.run [login, request] {}).on world = (.ok report, after) ∧
        report.all.map (fun node => (node.attempts, node.maxAttempts)) = [(2, 3), (1, 1)] ∧
        after.calls = 3 ∧
        ∀ node ∈ report.all, 1 ≤ node.attempts ∧ node.attempts ≤ max 1 node.maxAttempts := by
  intro world login request
  have hparse : Document.parse retriedScript = .ok { requests := [login, request] } := by
    decide +kernel
  have hruns : ((request.run [login, request] {}).on world).1.toOption.map (fun report =>
      report.all.map fun node => (node.attempts, node.maxAttempts)) =
      some [(2, 3), (1, 1)] := by
    have hplan : Plan.before [login, request] request = [.run login []] := by cbv
    rw [run, hplan]
    decide +kernel
  rcases hrun : (request.run [login, request] {}).on world with ⟨_ | report, after⟩ <;>
    rw [hrun] at hruns
  · cases hruns
  · have hall := Option.some.inj hruns
    obtain ⟨hcalls, hnodes⟩ := run_counts_calls hparse (by simp) hrun
    have hsum : report.all.map Report.attempts = [2, 1] := by
      have hfirst := congrArg (List.map Prod.fst) hall
      rwa [List.map_map] at hfirst
    rw [hsum] at hcalls
    exact ⟨hparse, report, after, rfl, hall, Int.ofNat.inj hcalls, fun node hnode =>
      ⟨(hnodes node hnode).1, (hnodes node hnode).2.1⟩⟩

/-- With a negative number of retries in its configuration block a request is sent once, although
it allows no attempt. -/
theorem run_negative_retries :
    let block : ConfigBlock := { retries := some (-1), endLine := 1 }
    let request : Request :=
      { url := "http://h/", retry := some { count := -1 }, config := some block
        startLine := 3, endLine := 5 }
    Document.parse "@config\nretries: -1\n\n###\nGET http://h/\n" =
        .ok { requests := [request], configs := [block] } ∧
      ∃ report after, (request.run [request] {}).on World.quiet = (.ok report, after) ∧
        after.calls = 1 ∧ ¬report.attempts ≤ report.maxAttempts := by
  intro block request
  have hparse : Document.parse "@config\nretries: -1\n\n###\nGET http://h/\n" =
      .ok { requests := [request], configs := [block] } := by
    decide +kernel
  have hreport : ((request.run [request] {}).on World.quiet).1.toOption.map (fun report =>
      (report.attempts, report.maxAttempts)) = some (1, 0) := by
    cbv
  have hcalls : ((request.run [request] {}).on World.quiet).2.calls = 1 := by
    cbv
  rcases hrun : (request.run [request] {}).on World.quiet with ⟨_ | report, after⟩ <;>
    rw [hrun] at hreport hcalls
  · cases hreport
  · obtain ⟨hattempts, hallowed⟩ := Prod.mk.inj (Option.some.inj hreport)
    refine ⟨hparse, report, after, rfl, hcalls, ?_⟩
    rw [hattempts, hallowed]
    decide

end Request

end RequestScript
