import RequestScript.Run
import RequestScript.Proofs.World.SteadyActions

/-!
# Requests by themselves

Without others a request runs after nothing. One that is ready at once, allows one attempt and
neither captures nor asserts anything is one call.
-/

namespace RequestScript.Request

open RequestScript.Action

variable {request : Request} {defaults : Defaults} {prepared : Prepared}
  {timeout : Option Seconds} {world : World}

/-- Without others a request runs after nothing. -/
theorem run_alone (request : Request) (defaults : Defaults) :
    request.run [] defaults = (do
      let start := (← getThe World).elapsed
      request.runAfter defaults start []) := by
  rw [run, show Plan.before [] request = [] from rfl]
  simp only [runSteps, pure_bind]

/-- Without references nothing runs before a request. -/
theorem run_eq_run_alone {request : Request} (hpre : request.pre = []) (requests : List Request)
    (defaults : Defaults) : request.run requests defaults = request.run [] defaults := by
  have hbefore : Plan.before requests request = [] := by
    unfold Plan.before
    rw [hpre]
    split
    · rfl
    · rw [Plan.steps]
  rw [run, hbefore]
  rfl

/-- What is known of a request that is ready at once and allows one attempt. -/
structure IsReady (request : Request) (defaults : Defaults) (prepared : Prepared)
    (timeout : Option Seconds) (world : World) : Prop where
  prepare_eq : request.prepare.on world = (.ok prepared, world)
  timeout_eq : request.timeoutSeconds defaults = .ok timeout
  maxAttempts_eq : request.maxAttempts = 1

/-- A request that is ready makes one call before it is concluded. -/
theorem IsReady.on_run (h : IsReady request defaults prepared timeout world) :
    ∃ call events, let after := (world.called call).moved world.room events
      after.effects = world.effects ++ [.sent call] ∧
      (request.run [] defaults).on world =
        (do
          let outcome ← Outcome.ofReply world.room timeout (world.replies world.calls)
          request.conclude prepared [] world.elapsed outcome 1 : Action Report).on after := by
  obtain ⟨events, hevents, hexchange⟩ := on_exchange prepared.method prepared.url
    (some prepared.headers) prepared.payload timeout world
  refine ⟨_, events, hevents, ?_⟩
  have hattempt : attempt prepared timeout (request.retryDelay defaults) 1 1 (1 - 1 : Int).toNat =
      exchange prepared.method prepared.url (some prepared.headers) prepared.payload timeout >>=
        fun outcome => pure (outcome, 1) := rfl
  rw [run_alone, on_bind, on_get]
  unfold runAfter dispatch
  dsimp only
  rw [on_bind, h.prepare_eq]
  dsimp only
  rw [h.timeout_eq, on_bind, on_lift, h.maxAttempts_eq]
  dsimp only
  rw [hattempt, bind_assoc, on_bind, hexchange, on_bind, on_lift]
  cases Outcome.ofReply world.room timeout (world.replies world.calls) <;> rfl

/-- What is reported on a response, when its captures have been kept and its assertions checked. -/
theorem on_conclude (request : Request) (prepared : Prepared) (before : List Report) (start : Int)
    {outcome : Outcome} (attempts : Int) {world kept : World} {verdicts : List Assertion.Verdict}
    (hresponse : outcome.error = none)
    (hcaptures : (request.captures.forM (Capture.keep outcome)).on world = (.ok (), kept))
    (hverdicts : Assertion.checkAll
      { status := .json (.int outcome.status)
        body := .json outcome.body
        headers := outcome.headers
        duration := .json (.int (kept.elapsed - start))
        size := .json (.int (Datum.json outcome.body).size)
        cookies := Cookie.ofHeaders outcome.cookieHeaders } request.assertions = .ok verdicts) :
    (request.conclude prepared before start outcome attempts).on world =
      (.ok
        { method := prepared.method
          url := prepared.url
          name := request.name
          status := outcome.status
          duration := kept.elapsed - start
          body := .json outcome.body
          headers := outcome.headers
          attempts
          maxAttempts := request.maxAttempts
          verdicts
          requestHeaders := prepared.headers
          requestBody := prepared.shown
          size := (Datum.json outcome.body).size
          cookies := Cookie.ofHeaders outcome.cookieHeaders
          before },
        kept) := by
  have hduration : (elapsedSince start).on kept = (.ok (kept.elapsed - start), kept) := rfl
  unfold conclude
  rw [hresponse]
  dsimp only
  rw [on_bind_of_ok hcaptures, on_bind_of_ok hduration]
  rw [on_bind, on_lift, hverdicts]
  rfl

/-- A request that is ready is concluded with its outcome. -/
theorem IsReady.on_run_of_reply {outcome : Outcome}
    (h : IsReady request defaults prepared timeout world)
    (hreply : Outcome.ofReply world.room timeout (world.replies world.calls) = .ok outcome) :
    ∃ call events, let after := (world.called call).moved world.room events
      after.effects = world.effects ++ [.sent call] ∧
      (request.run [] defaults).on world =
        (request.conclude prepared [] world.elapsed outcome 1).on after := by
  obtain ⟨call, events, hevents, hrun⟩ := h.on_run
  refine ⟨call, events, hevents, ?_⟩
  rw [hrun, hreply]
  rfl

end RequestScript.Request
