import RequestScript.Proofs.Assertion.Duration
import RequestScript.Proofs.Run.Alone
import RequestScript.Proofs.Run.Dispatches
import RequestScript.Proofs.Run.Steady

/-!
# Runs one after another

A run has the same effects as the requests of its order, run one after another by themselves. What
a request does depends on the world that is left behind by the requests before it, and neither on
when the first of them started nor on what was reported about them. Waiting for others only
takes room, and no more of it than the references are deep.
-/

namespace RequestScript

open RequestScript.Action

namespace Step

mutual

/-- The number of levels that the requests of a step take at most while they wait. -/
def levels : Step → Nat
  | .run _ before => mostLevels before + Depth.ofRequest
  | .repeated _ | .unknown _ => 0
termination_by structural step => step

/-- The number of levels that the requests of steps take at most while they wait. -/
def mostLevels : List Step → Nat
  | [] => 0
  | step :: rest => max step.levels (mostLevels rest)
termination_by structural steps => steps

end

end Step

namespace Request

/-- A request measures times if one of its assertions is on the duration. -/
def Measures (request : Request) : Prop :=
  ∃ assertion ∈ request.assertions, assertion.target = .duration

/-- Runs requests one after another, each by itself. -/
def runInTurn (order : List Request) (defaults : Defaults) : Action (List Report) :=
  order.mapM fun request => request.run [] defaults

theorem steady_runInTurn (order : List Request) (defaults : Defaults) :
    Steady (runInTurn order defaults) :=
  .mapM (fun request => steady_run request [] defaults) order

theorem runInTurn_append (first second : List Request) (defaults : Defaults) :
    runInTurn (first ++ second) defaults = (do
      let reports ← runInTurn first defaults
      let others ← runInTurn second defaults
      return reports ++ others) :=
  List.mapM_append

theorem runInTurn_concat (order : List Request) (last : Request) (defaults : Defaults) :
    runInTurn (order ++ [last]) defaults = (do
      let reports ← runInTurn order defaults
      let report ← last.run [] defaults
      return reports ++ [report]) := by
  rw [runInTurn_append]
  simp only [runInTurn, List.mapM_cons, List.mapM_nil, bind_assoc, pure_bind]

section Following

variable {measured : Prop} {levels : Nat} {defaults : Defaults} {request : Request}

/-- When a request has started and what has been reported before makes no difference to how it
is concluded. -/
theorem follows_conclude (hmeasured : request.Measures → measured) (prepared : Prepared)
    (before others : List Report) (start other : Int) (outcome : Outcome) (attempts : Int) :
    Follows measured levels anyway (request.conclude prepared before start outcome attempts)
      (request.conclude prepared others other outcome attempts) := by
  have hduration : Follows measured levels anyway (elapsedSince start) (elapsedSince other) :=
    .of_reads (reads_elapsedSince start) (reads_elapsedSince other) fun _ _ _ => .ok _ _
  have hsteady := fun start => Steady.of_reads (reads_elapsedSince start)
  unfold conclude
  dsimp only
  split
  · exact hduration.map fun _ _ _ => trivial
  · refine .bind_same (Steady.forM (Capture.steady_keep _) _) (fun _ => ?_)
      (fun _ => (hsteady start).bind fun _ => (Steady.lift _).bind fun _ => .pure _)
      (fun _ => (hsteady other).bind fun _ => (Steady.lift _).bind fun _ => .pure _)
    refine hduration.bind (fun duration elapsed _ => ?_)
      (fun _ => (Steady.lift _).bind fun _ => .pure _)
      (fun _ => (Steady.lift _).bind fun _ => .pure _)
    have hchecks := Assertion.parallel_checkAll duration elapsed
      { status := .json (.int outcome.status)
        body := .json outcome.body
        headers := outcome.headers
        size := .json (.int (Datum.json outcome.body).size)
        cookies := Cookie.ofHeaders outcome.cookieHeaders } hmeasured
    exact (Follows.of_parallel hchecks).map fun _ _ _ => trivial

/-- When a request has started and what has been reported before makes no difference to how it
runs. -/
theorem follows_runAfter (hmeasured : request.Measures → measured)
    (before others : List Report) (start other : Int) :
    Follows measured levels anyway (request.runAfter defaults start before)
      (request.runAfter defaults other others) := by
  unfold runAfter
  refine .bind_same (steady_prepare request) (fun prepared => ?_)
    (fun _ => steady_dispatch _ _ _ _ _) (fun _ => steady_dispatch _ _ _ _ _)
  unfold dispatch
  refine .bind_same (.lift _) (fun timeout => ?_) ?_ ?_
  · refine .bind_same (steady_attempt _ _ _ _ _ _) (fun _ => ?_)
      (fun _ => steady_conclude _ _ _ _ _ _) (fun _ => steady_conclude _ _ _ _ _ _)
    exact follows_conclude hmeasured _ _ _ _ _ _ _
  · exact fun _ => (steady_attempt _ _ _ _ _ _).bind fun _ => steady_conclude _ _ _ _ _ _
  · exact fun _ => (steady_attempt _ _ _ _ _ _).bind fun _ => steady_conclude _ _ _ _ _ _

/-- A request after others runs as it runs by itself. -/
theorem runAfter_follows_run (hmeasured : request.Measures → measured) (before : List Report)
    (start : Int) :
    Follows measured levels anyway (request.runAfter defaults start before)
      (request.run [] defaults) := by
  unfold run
  refine .bind_get_right fun world => ?_
  exact follows_runAfter hmeasured before [] start world.elapsed

/-- A request by itself runs as it runs after others. -/
theorem run_follows_runAfter (hmeasured : request.Measures → measured) (before : List Report)
    (start : Int) :
    Follows measured levels anyway (request.run [] defaults)
      (request.runAfter defaults start before) := by
  unfold run
  refine .bind_get_left fun world => ?_
  exact follows_runAfter hmeasured [] before world.elapsed start

mutual

/-- A step has the same effects as its requests in turn. -/
theorem runStep_follows_runInTurn (step : Step)
    (hmeasured : ∀ request ∈ step.requests, request.Measures → measured) :
    Follows measured levels anyway (runStep defaults step) (runInTurn step.requests defaults) := by
  match step with
  | .run request before =>
    rw [Step.requests] at hmeasured ⊢
    have hbefore := runSteps_follows_runInTurn before fun x hx =>
      hmeasured x (List.mem_append_left _ hx)
    have hself : request.Measures → measured := hmeasured request (by simp)
    rw [runStep, runInTurn_concat]
    refine .map_left (.deeper_left _ (.bind_get_left fun world => ?_) ?_)
    · refine hbefore.bind (fun reports _ _ => (runAfter_follows_run hself reports _).map_right)
        (fun _ => steady_runAfter _ _ _ _) fun _ => (steady_run _ _ _).bind fun _ => .pure _
    · exact (steady_runInTurn _ _).bind fun _ => (steady_run _ _ _).bind fun _ => .pure _
  | .repeated id | .unknown id =>
    rw [runStep, Step.requests]
    exact .log_left _ _ (.pure trivial)
termination_by structural step

/-- Steps have the same effects as their requests in turn. -/
theorem runSteps_follows_runInTurn (steps : List Step)
    (hmeasured : ∀ request ∈ Step.allRequests steps, request.Measures → measured) :
    Follows measured levels anyway (runSteps defaults steps)
      (runInTurn (Step.allRequests steps) defaults) := by
  match steps with
  | [] =>
    rw [runSteps, Step.allRequests]
    exact .pure trivial
  | step :: rest =>
    rw [Step.allRequests] at hmeasured ⊢
    have hstep := runStep_follows_runInTurn step fun x hx => hmeasured x (List.mem_append_left _ hx)
    have hrest := runSteps_follows_runInTurn rest fun x hx =>
      hmeasured x (List.mem_append_right _ hx)
    rw [runSteps, runInTurn_append]
    refine hstep.bind (fun _ _ _ => hrest.map fun _ _ _ => trivial)
      (fun _ => (steady_runSteps _ _).bind fun _ => .pure _)
      (fun _ => (steady_runInTurn _ _).bind fun _ => .pure _)
termination_by structural steps

end

mutual

/-- The requests of a step in turn have the same effects as the step, where there is more room by
the levels that it takes. -/
theorem runInTurn_follows_runStep (step : Step) {levels : Nat} (hlevels : step.levels ≤ levels)
    (hmeasured : ∀ request ∈ step.requests, request.Measures → measured) :
    Follows measured levels anyway (runInTurn step.requests defaults) (runStep defaults step) := by
  match step with
  | .run request before =>
    rw [Step.requests] at hmeasured ⊢
    rw [Step.levels] at hlevels
    obtain ⟨left, rfl⟩ : ∃ left, levels = left + Depth.ofRequest :=
      ⟨levels - Depth.ofRequest, by omega⟩
    have hbefore := runInTurn_follows_runSteps before
      (Nat.le_of_add_le_add_right hlevels) fun x hx => hmeasured x (List.mem_append_left _ hx)
    have hself : request.Measures → measured := hmeasured request (by simp)
    rw [runStep, runInTurn_concat]
    refine .map_right (.deeper_right _ (.bind_get_right fun world => ?_) ?_)
    · exact hbefore.bind (fun _ reports _ => (run_follows_runAfter hself reports _).map_left)
        (fun _ => (steady_run _ _ _).bind fun _ => .pure _) fun _ => steady_runAfter _ _ _ _
    · exact (steady_runInTurn _ _).bind fun _ => (steady_run _ _ _).bind fun _ => .pure _
  | .repeated id | .unknown id =>
    rw [runStep, Step.requests]
    exact .log_right _ _ (.pure trivial)
termination_by structural step

/-- The requests of steps in turn have the same effects as the steps, where there is more room by
the levels that they take. -/
theorem runInTurn_follows_runSteps (steps : List Step) {levels : Nat}
    (hlevels : Step.mostLevels steps ≤ levels)
    (hmeasured : ∀ request ∈ Step.allRequests steps, request.Measures → measured) :
    Follows measured levels anyway (runInTurn (Step.allRequests steps) defaults)
      (runSteps defaults steps) := by
  match steps with
  | [] =>
    rw [runSteps, Step.allRequests]
    exact .pure trivial
  | step :: rest =>
    rw [Step.allRequests] at hmeasured ⊢
    rw [Step.mostLevels] at hlevels
    obtain ⟨hfirst, hmost⟩ := Nat.max_le.mp hlevels
    have hstep := runInTurn_follows_runStep step hfirst fun x hx =>
      hmeasured x (List.mem_append_left _ hx)
    have hrest := runInTurn_follows_runSteps rest hmost fun x hx =>
      hmeasured x (List.mem_append_right _ hx)
    rw [runSteps, runInTurn_append]
    exact hstep.bind (fun _ _ _ => hrest.map fun _ _ _ => trivial)
      (fun _ => (steady_runInTurn _ _).bind fun _ => .pure _)
      (fun _ => (steady_runSteps _ _).bind fun _ => .pure _)
termination_by structural steps

end

end Following

section Order

variable {request : Request} {requests order : List Request} {defaults : Defaults}

end Order

section Waiting

variable {request other : Request} {requests : List Request} {defaults : Defaults}
  {prepared last : Prepared} {timeout final : Option Seconds} {world : World}

end Waiting

end Request

end RequestScript
