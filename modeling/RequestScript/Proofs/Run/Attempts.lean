import RequestScript.Proofs.Run.Alone
import RequestScript.Proofs.Run.Steady
import RequestScript.Proofs.World.Moves

/-!
# The attempts of a run

A run interpolates its request once and makes the same call until a reply is good or the attempts
run out, with a wait between each two calls. What is kept, and what the report tells, comes from the
last reply alone.
-/

namespace RequestScript

/-- Whether a reply is a response that does not tell of a failure of the server. -/
def Reply.isGood : Reply → Bool
  | .response status .. => status < 500
  | .failure .. => false

/-- How many of the replies are asked for: up to the first good one, or else all of them. -/
def attemptsFor (replies : List Reply) : Nat :=
  min (replies.findIdx Reply.isGood + 1) replies.length

/-- The replies to the next calls. -/
def World.nextReplies (world : World) (count : Nat) : List Reply :=
  (List.range count).map fun n => world.replies (world.calls + n)

/-- From one world to another one with the same call made so many times, and a wait between each
two of them. -/
def World.Tries (call : Call) (seconds : Double) (count : Nat) (world after : World) : Prop :=
  ∃ elapsed events, after = { world with calls := world.calls + count, elapsed, events } ∧
    after.effects =
      world.effects ++ (List.replicate count (.sent call)).intersperse (.slept seconds)

/-- From one world to another one with a wait. -/
def World.Waits (seconds : Double) (world after : World) : Prop :=
  ∃ elapsed events, after = { world with elapsed, events } ∧
    after.effects = world.effects ++ [.slept seconds]

/-! ## Replies -/

theorem attemptsFor_pos (world : World) (count : Nat) :
    0 < attemptsFor (world.nextReplies (count + 1)) := by
  simp [attemptsFor, World.nextReplies]

/-- A good reply ends the attempts. -/
theorem attemptsFor_cons_good {reply : Reply} {rest : List Reply} (h : reply.isGood) :
    attemptsFor (reply :: rest) = 1 := by
  simp [attemptsFor, List.findIdx_cons, h]

/-- The last reply ends the attempts. -/
theorem attemptsFor_singleton (reply : Reply) : attemptsFor [reply] = 1 := by
  simp [attemptsFor]

/-- After a reply that is not good there is one attempt more than from the next reply on. -/
theorem attemptsFor_cons_failed {reply : Reply} {rest : List Reply} (h : reply.isGood = false) :
    attemptsFor (reply :: rest) = attemptsFor rest + 1 := by
  simp only [attemptsFor, List.findIdx_cons, h, cond_false, List.length_cons]
  omega

/-- The replies after the next one are the same later. -/
theorem World.nextReplies_succ {world after : World} (hreplies : after.replies = world.replies)
    (hcalls : after.calls = world.calls + 1) (count : Nat) :
    world.nextReplies (count + 1) = world.replies world.calls :: after.nextReplies count := by
  simp [nextReplies, List.range_succ_eq_map, hreplies, hcalls, Nat.add_assoc, Nat.add_comm 1]

namespace Outcome

variable {room : Nat} {timeout : Option Seconds} {reply : Reply} {outcome : Outcome}

theorem of_response {status : Int} {headers : Headers} {text : String}
    {cookieHeaders : Option (List String)} {elapsed : Nat}
    (h : ofReply room timeout (.response status headers text cookieHeaders elapsed) =
      .ok outcome) : outcome.error = none ∧ outcome.status = status := by
  obtain ⟨value, _, houtcome⟩ := bind_eq_ok_iff.mp h
  obtain rfl := Except.ok.inj houtcome
  exact ⟨rfl, rfl⟩

/-- Another attempt may help where the reply is not good. -/
theorem isFailed_of_ofReply (h : ofReply room timeout reply = .ok outcome) :
    outcome.isFailed = !reply.isGood := by
  cases reply with
  | response status headers text cookieHeaders elapsed =>
    obtain ⟨herror, hstatus⟩ := of_response h
    by_cases hserver : 500 ≤ status
    · simp [isFailed, Reply.isGood, herror, hstatus, hserver]
    · simp [isFailed, Reply.isGood, herror, hstatus, hserver, Int.not_le.mp hserver]
  | failure failure message =>
    cases failure <;> cases h <;> rfl

/-- The outcome of a call without a response has nothing but the error. -/
theorem eq_of_error {error : String} (h : ofReply room timeout reply = .ok outcome)
    (herror : outcome.error = some error) : outcome = { error := some error } := by
  cases reply with
  | response status headers text cookieHeaders elapsed =>
    rw [(of_response h).1] at herror
    cases herror
  | failure failure message =>
    cases failure <;> cases h <;> cases herror <;> rfl

end Outcome

/-! ## Calls and waits -/

namespace World.Tries

variable {call : Call} {seconds : Double} {count : Nat} {world between waited after : World}

/-- One call. -/
theorem once {events : List Event}
    (h : ((world.called call).moved world.room events).effects = world.effects ++ [.sent call]) :
    Tries call seconds 1 world ((world.called call).moved world.room events) :=
  ⟨_, events, rfl, h⟩

theorem effects_eq (h : Tries call seconds count world after) :
    after.effects =
      world.effects ++ (List.replicate count (.sent call)).intersperse (.slept seconds) := by
  obtain ⟨_, _, _, heffects⟩ := h
  exact heffects

/-- A call, a wait, and more calls with waits between them. -/
theorem again (h : Tries call seconds 1 world between) (hwait : Waits seconds between waited)
    (hrest : Tries call seconds (count + 1) waited after) :
    Tries call seconds (count + 1 + 1) world after := by
  obtain ⟨_, _, rfl, hfirst⟩ := h
  obtain ⟨_, _, rfl, hslept⟩ := hwait
  obtain ⟨elapsed, events, rfl, hlast⟩ := hrest
  refine ⟨elapsed, events, ?_, ?_⟩
  · simp only [Nat.add_assoc, Nat.add_comm 1]
  · rw [hlast, hslept, hfirst, List.append_assoc, List.append_assoc]
    rfl

/-- What comes back is the same after a call and a wait as after the call. -/
theorem same (h : Tries call seconds 1 world between) (hwait : Waits seconds between waited) :
    waited.replies = world.replies ∧ waited.calls = world.calls + 1 ∧
      waited.room = world.room := by
  obtain ⟨_, _, rfl, _⟩ := h
  obtain ⟨_, _, rfl, _⟩ := hwait
  exact ⟨rfl, rfl, rfl⟩

end World.Tries

/-- A message before a wait is no effect. -/
theorem World.Waits.of_log {seconds : Double} {world after : World} {source message : String}
    (h : Waits seconds (world.moved world.room (.logged source message :: world.events)) after) :
    Waits seconds world after := by
  obtain ⟨elapsed, events, rfl, heffects⟩ := h
  exact ⟨elapsed, events, rfl, heffects⟩

namespace Action

/-- A wait that comes to its end is noted. -/
theorem on_sleep_ok {milliseconds : Int} {world after : World} {x : Unit}
    (h : (sleep milliseconds).on world = (.ok x, after)) :
    ∃ seconds, Double.thousandth? milliseconds = some seconds ∧
      World.Waits seconds world after := by
  unfold sleep at h
  cases hseconds : Double.thousandth? milliseconds with
  | none =>
    rw [hseconds] at h
    cases h
  | some seconds =>
    rw [hseconds] at h
    refine ⟨seconds, rfl, ?_⟩
    obtain ⟨_, _, hfound, h⟩ := on_bind_ok h
    obtain ⟨_, _, hnote, h⟩ := on_bind_ok h
    obtain ⟨passed, _, hpassed, h⟩ := on_bind_ok h
    cases hfound
    cases hnote
    obtain ⟨_, rfl⟩ := on_lift_ok hpassed
    obtain ⟨_, rfl⟩ := Prod.mk.inj h
    exact ⟨_, _, rfl, @World.effects_of_events world _ [.slept seconds] rfl⟩

/-- An exchange that comes to its end is one call. -/
theorem on_exchange_ok {method url : String} {headers : Option Headers} {payload : Payload}
    {timeout : Option Seconds} {world after : World} {outcome : Outcome}
    (h : (exchange method url headers payload timeout).on world = (.ok outcome, after))
    (seconds : Double) :
    World.Tries (Call.make method url headers payload timeout) seconds 1 world after ∧
      Outcome.ofReply world.room timeout (world.replies world.calls) = .ok outcome := by
  obtain ⟨events, hevents, hexchange⟩ := on_exchange method url headers payload timeout world
  rw [hexchange] at h
  obtain ⟨hreply, rfl⟩ := Prod.mk.inj h
  exact ⟨.once hevents, hreply⟩

end Action

namespace Request

open RequestScript.Action

variable {prepared : Prepared} {timeout : Option Seconds} {delay : Int} {seconds : Double}

/-- The course of attempts that no fault stops, so many of them being left after the next one. -/
inductive Course (call : Call) (timeout : Option Seconds) (delay : Int) :
    Nat → Int → World → Outcome → Int → World → Prop
  /-- The reply to the call is good, or no attempt is left. -/
  | last {left : Nat} {made : Int} {world after : World} {outcome : Outcome} :
      (∀ seconds, World.Tries call seconds 1 world after) →
      Outcome.ofReply world.room timeout (world.replies world.calls) = .ok outcome →
      (world.replies world.calls).isGood = true ∨ left = 0 →
      Course call timeout delay left made world outcome made after
  /-- The reply to the call is not good, and the other attempts follow after a wait. -/
  | again {left : Nat} {made attempts : Int} {world between waited after : World}
      {outcome : Outcome} {seconds : Double} :
      (∀ seconds, World.Tries call seconds 1 world between) →
      (world.replies world.calls).isGood = false → Double.thousandth? delay = some seconds →
      World.Waits seconds between waited →
      Course call timeout delay left (made + 1) waited outcome attempts after →
      Course call timeout delay (left + 1) made world outcome attempts after

/-- Attempts that no fault stops take their course. -/
theorem course_of_attempt {maxAttempts made : Int} {left : Nat} {world after : World}
    {outcome : Outcome} {attempts : Int}
    (h : (attempt prepared timeout delay maxAttempts made left).on world =
      (.ok (outcome, attempts), after)) :
    Course (Call.make prepared.method prepared.url (some prepared.headers) prepared.payload timeout)
      timeout delay left made world outcome attempts after := by
  induction left generalizing made world with
  | zero =>
    obtain ⟨last, between, hexchange, h⟩ := Action.on_bind_ok h
    cases h
    have hcall := Action.on_exchange_ok hexchange
    exact .last (fun seconds => (hcall seconds).1) (hcall (Double.zero false)).2 (.inr rfl)
  | succ left ih =>
    obtain ⟨first, between, hexchange, h⟩ := Action.on_bind_ok h
    have hcall := Action.on_exchange_ok hexchange
    have hreply := (hcall (Double.zero false)).2
    have hfailed := Outcome.isFailed_of_ofReply hreply
    cases hgood : (world.replies world.calls).isGood with
    | true =>
      rw [hgood, Bool.not_true] at hfailed
      rw [hfailed] at h
      cases h
      exact .last (fun seconds => (hcall seconds).1) hreply (.inl hgood)
    | false =>
      rw [hgood, Bool.not_false] at hfailed
      rw [hfailed, if_pos rfl] at h
      obtain ⟨_, logged, hlog, h⟩ := Action.on_bind_ok h
      cases hlog
      obtain ⟨_, waited, hsleep, h⟩ := Action.on_bind_ok h
      obtain ⟨_, hseconds, hwait⟩ := Action.on_sleep_ok hsleep
      exact .again (fun seconds => (hcall seconds).1) hgood hseconds hwait.of_log (ih h)

/-- **The attempts**: the same call is made until a reply is good or no attempt is left, with a wait
between each two calls, and what comes back is the outcome of the last reply. -/
theorem Course.tries {call : Call} (hdelay : Double.thousandth? delay = some seconds)
    {made : Int} {left : Nat} {world after : World} {outcome : Outcome} {attempts : Int}
    (h : Course call timeout delay left made world outcome attempts after) :
    let count := attemptsFor (world.nextReplies (left + 1))
    attempts = made + (count - 1 : Nat) ∧ World.Tries call seconds count world after ∧
      Outcome.ofReply world.room timeout (world.replies (world.calls + (count - 1))) =
        .ok outcome := by
  intro count
  induction h with
  | @last left made world after outcome htries hreply hend =>
    have hcount : count = 1 := by
      have hnext := @World.nextReplies_succ world { world with calls := world.calls + 1 } rfl rfl
        left
      simp only [count, hnext]
      rcases hend with hgood | rfl
      · exact attemptsFor_cons_good hgood
      · exact attemptsFor_singleton _
    rw [hcount]
    exact ⟨by simp, htries seconds, hreply⟩
  | @again left made attempts world between waited after outcome _ htries hgood hseconds hwait _
      ih =>
    obtain rfl := Option.some.inj (hdelay.symm.trans hseconds)
    obtain ⟨hreplies, hcalls, hroom⟩ := (htries seconds).same hwait
    obtain ⟨hattempts, hrest, hlast⟩ := ih
    have hcount : count = attemptsFor (waited.nextReplies (left + 1)) + 1 := by
      simp only [count, World.nextReplies_succ hreplies hcalls]
      exact attemptsFor_cons_failed hgood
    obtain ⟨more, hmore⟩ := Nat.exists_eq_add_one.mpr (attemptsFor_pos waited left)
    rw [hmore] at hcount hattempts hrest hlast
    rw [hroom, hreplies, hcalls] at hlast
    have hindex : world.calls + 1 + (more + 1 - 1) = world.calls + (more + 1 + 1 - 1) := by omega
    rw [hcount]
    refine ⟨?_, (htries seconds).again hwait hrest, ?_⟩
    · omega
    · rw [← hindex]
      exact hlast

/-! ## Before and after the attempts -/

theorem draws_queryText (pair : QueryPair) : Moves World.Draws (queryText pair) := by
  unfold queryText
  exact (draws_interpolate _).bind fun _ => (draws_interpolate _).bind fun _ => .pure _

theorem draws_preparePart (request : Request) (field : FormField) :
    Moves World.Draws (request.preparePart field) := by
  unfold preparePart
  split
  · exact (draws_interpolate _).bind fun _ => .pure _
  · refine (draws_interpolate _).bind fun _ => (Moves.of_reads reads_isFile).bind fun found => ?_
    split
    · exact (Moves.of_reads reads_readBytes).bind fun _ => .pure _
    · exact (draws_log _ _).bind fun _ => .pure _

theorem draws_prepareFile (request : Request) (file : String) :
    Moves World.Draws (request.prepareFile file) := by
  unfold prepareFile
  refine (draws_interpolate _).bind fun _ => (Moves.of_reads reads_isFile).bind fun found => ?_
  split
  · split
    · refine (Moves.of_reads reads_readText).bind fun _ => ?_
      exact (draws_interpolate _).bind fun _ => .pure _
    · exact (Moves.of_reads reads_readBytes).bind fun _ => .pure _
  · exact (draws_log _ _).bind fun _ => .pure _

theorem draws_preparePayload (request : Request) :
    Moves World.Draws request.preparePayload := by
  unfold preparePayload
  split
  · exact (Moves.mapM (draws_preparePart request) _).bind fun _ => .pure _
  · split
    · exact draws_prepareFile _ _
    · exact (draws_interpolate _).bind fun _ => .pure _
    · exact .pure _

theorem draws_resolveUrl (request : Request) : Moves World.Draws request.resolveUrl := by
  unfold resolveUrl
  exact (draws_interpolate _).bind fun _ => (Moves.mapM draws_queryText _).bind fun _ => .pure _

theorem draws_resolveHeaders (request : Request) : Moves World.Draws request.resolveHeaders := by
  unfold resolveHeaders
  exact .mapM (fun _ => (draws_interpolate _).bind fun _ => .pure _) _

/-- Making a request ready draws values, and does nothing else. -/
theorem draws_prepare (request : Request) : Moves World.Draws request.prepare := by
  unfold prepare
  refine (draws_resolveUrl request).bind fun _ => (draws_resolveHeaders request).bind fun _ => ?_
  exact (draws_preparePayload request).bind fun _ => .pure _

/-- Keeps what a request captures from an outcome, unless the call failed. -/
def keepCaptures (request : Request) (outcome : Outcome) : Action Unit :=
  match outcome.error with
  | some _ => return
  | none => request.captures.forM (Capture.keep outcome)

theorem keeps_keepCaptures (request : Request) (outcome : Outcome) :
    Moves World.Keeps (request.keepCaptures outcome) := by
  unfold keepCaptures
  split
  · exact .pure ()
  · exact .forM (Capture.keeps_keep outcome) _

/-- Reporting on a request keeps what it captures, and does nothing else. -/
theorem keeps_conclude (request : Request) (prepared : Prepared) (before : List Report)
    (start : Int) (outcome : Outcome) (attempts : Int) :
    Moves World.Keeps (request.conclude prepared before start outcome attempts) := by
  have hduration : Moves World.Keeps (elapsedSince start) := .of_reads (reads_elapsedSince start)
  unfold conclude
  dsimp only
  split
  · exact hduration.bind fun _ => .pure _
  · refine (Moves.forM (Capture.keeps_keep outcome) _).bind fun _ => hduration.bind fun _ => ?_
    exact (Moves.lift _).bind fun _ => .pure _

end Request

/-- What assertions are checked on after a response, once so much time has passed. -/
def Outcome.findings (outcome : Outcome) (duration : Int) : Findings where
  status := .json (.int outcome.status)
  body := .json outcome.body
  headers := outcome.headers
  duration := .json (.int duration)
  size := .json (.int (Datum.json outcome.body).size)
  cookies := Cookie.ofHeaders outcome.cookieHeaders

/-- A report tells what the outcome of an attempt says. -/
structure Report.Tells (report : Report) (request : Request) (outcome : Outcome) : Prop where
  /-- The status is that of the response, or zero. -/
  status : report.status = outcome.status
  /-- The headers are those of the response, if there is one. -/
  headers : report.headers = outcome.headers
  /-- The cookies are those of the response, if there is one. -/
  cookies : report.cookies = Cookie.ofHeaders outcome.cookieHeaders
  /-- The error is that of the call, if it failed. -/
  error : report.error = outcome.error
  /-- The body is that of the response, or the error. -/
  body : report.body = match outcome.error with
    | some error => .ofString error
    | none => .json outcome.body
  /-- The assertions are checked on the response, if there is one. -/
  verdicts : match outcome.error with
    | some _ => report.verdicts = []
    | none => Assertion.checkAll (outcome.findings report.duration) request.assertions =
        .ok report.verdicts

namespace Request

/-- What a report says whatever came back. -/
theorem fields_of_conclude {request : Request} {prepared : Prepared} {before : List Report}
    {start : Int} {outcome : Outcome} {attempts : Int} {world after : World} {report : Report}
    (h : (request.conclude prepared before start outcome attempts).on world =
      (.ok report, after)) :
    report.requestHeaders = prepared.headers ∧ report.requestBody = prepared.shown ∧
      report.attempts = attempts ∧ report.maxAttempts = request.maxAttempts ∧
      report.before = before := by
  unfold conclude at h
  dsimp only at h
  split at h
  · obtain ⟨_, _, _, hreport⟩ := Action.on_bind_ok h
    cases hreport
    exact ⟨rfl, rfl, rfl, rfl, rfl⟩
  · obtain ⟨_, _, _, h⟩ := Action.on_bind_ok h
    obtain ⟨_, _, _, h⟩ := Action.on_bind_ok h
    obtain ⟨_, _, _, hreport⟩ := Action.on_bind_ok h
    cases hreport
    exact ⟨rfl, rfl, rfl, rfl, rfl⟩

/-- A report that comes to its end tells of the outcome and keeps what is captured from it. -/
theorem conclude_ok {request : Request} {prepared : Prepared} {before : List Report} {start : Int}
    {outcome : Outcome} {attempts : Int} {world after : World} {report : Report}
    (herror : ∀ error, outcome.error = some error → outcome = { error := some error })
    (h : (request.conclude prepared before start outcome attempts).on world =
      (.ok report, after)) :
    (request.keepCaptures outcome).on world = (.ok (), after) ∧ report.attempts = attempts ∧
      report.maxAttempts = request.maxAttempts ∧ report.Tells request outcome := by
  cases houtcome : outcome.error with
  | some error =>
    rw [herror error houtcome] at h ⊢
    cases h
    exact ⟨rfl, rfl, rfl, ⟨rfl, rfl, rfl, rfl, rfl, rfl⟩⟩
  | none =>
    have hkeep : request.keepCaptures outcome = request.captures.forM (Capture.keep outcome) := by
      rw [keepCaptures, houtcome]
    unfold conclude at h
    rw [houtcome] at h
    dsimp only at h
    obtain ⟨_, kept, hkept, h⟩ := Action.on_bind_ok h
    obtain ⟨duration, _, hduration, h⟩ := Action.on_bind_ok h
    obtain ⟨verdicts, _, hverdicts, h⟩ := Action.on_bind_ok h
    cases hduration
    obtain ⟨hchecked, rfl⟩ := Action.on_lift_ok hverdicts
    cases h
    rw [hkeep]
    refine ⟨hkept, rfl, rfl, ⟨rfl, rfl, rfl, ?_, ?_, ?_⟩⟩
    · rw [houtcome]
    · rw [houtcome]
    · rw [houtcome]
      exact hchecked

/-- A request without references that no fault stops is run after nothing. -/
theorem runAfter_of_run {request : Request} {requests : List Request} {defaults : Defaults}
    {world after : World} {report : Report} (hpre : request.pre = [])
    (h : (request.run requests defaults).on world = (.ok report, after)) :
    (request.runAfter defaults world.elapsed []).on world = (.ok report, after) := by
  rw [run_eq_run_alone hpre, run_alone, Action.on_bind, Action.on_get] at h
  exact h

/-- A request that no fault stops is made ready, is tried, and is reported on. -/
theorem runAfter_steps {request : Request} {defaults : Defaults} {start : Int}
    {before : List Report} {world after : World} {report : Report}
    (h : (request.runAfter defaults start before).on world = (.ok report, after)) :
    ∃ prepared ready timeout outcome attempts last,
      request.prepare.on world = (.ok prepared, ready) ∧
      request.timeoutSeconds defaults = .ok timeout ∧
      (attempt prepared timeout (request.retryDelay defaults) request.maxAttempts 1
        (request.maxAttempts - 1).toNat).on ready = (.ok (outcome, attempts), last) ∧
      (request.conclude prepared before start outcome attempts).on last = (.ok report, after) := by
  obtain ⟨prepared, ready, hprepare, hdispatch⟩ := Action.on_bind_ok h
  obtain ⟨timeout, _, hlift, hattempts⟩ := Action.on_bind_ok hdispatch
  obtain ⟨htimeout, rfl⟩ := Action.on_lift_ok hlift
  obtain ⟨⟨outcome, attempts⟩, last, hattempt, hconclude⟩ := Action.on_bind_ok hattempts
  exact ⟨prepared, ready, timeout, outcome, attempts, last, hprepare, htimeout, hattempt, hconclude⟩

/-- **One request, several attempts.** A run that no fault stops, of a request without references
that allows so many attempts after the first one, makes the same call until a reply is good or no
attempt is left, and waits between each two calls. Values are drawn before the first call only, and
what is kept and told comes from the last reply. -/
theorem run_attempts {request : Request} {requests : List Request} {defaults : Defaults}
    {count : Nat} {seconds : Double} {world after : World} {report : Report}
    (hpre : request.pre = []) (hcount : request.retry.elim 0 (·.count) = (count : Int))
    (hdelay : Double.thousandth? (request.retryDelay defaults) = some seconds)
    (hrun : (request.run requests defaults).on world = (.ok report, after)) :
    let attempts := attemptsFor (world.nextReplies (count + 1))
    ∃ prepared ready timeout outcome last,
      let call := Call.make prepared.method prepared.url (some prepared.headers) prepared.payload
        timeout
      request.prepare.on world = (.ok prepared, ready) ∧
      request.timeoutSeconds defaults = .ok timeout ∧
      Outcome.ofReply world.room timeout (world.replies (world.calls + (attempts - 1))) =
        .ok outcome ∧
      (request.keepCaptures outcome).on last = (.ok (), after) ∧
      World.Draws world ready ∧ World.Tries call seconds attempts ready last ∧
      World.Keeps last after ∧
      (∃ kept, after.effects = world.effects ++
          (List.replicate attempts (.sent call)).intersperse (.slept seconds) ++ kept ∧
        ∀ event ∈ kept, event.isKept) ∧
      after.calls = world.calls + attempts ∧ after.dice = ready.dice ∧
      report.attempts = attempts ∧ report.maxAttempts = count + 1 ∧
      report.Tells request outcome := by
  intro attempts
  have hmax : request.maxAttempts = count + 1 := by
    rw [← hcount, maxAttempts]
    cases request.retry <;> rfl
  obtain ⟨prepared, ready, timeout, outcome, made, last, hprepare, htimeout, hattempt, hconclude⟩ :=
    runAfter_steps (runAfter_of_run hpre hrun)
  -- Making the request ready leaves the replies to come, and the room in which they are read.
  have hdraws : World.Draws world ready := by
    have hmoves := draws_prepare request world
    rwa [hprepare] at hmoves
  have hready : ready.nextReplies (count + 1) = world.nextReplies (count + 1) ∧
      ready.replies = world.replies ∧ ready.calls = world.calls ∧ ready.room = world.room := by
    obtain ⟨_, _, rfl, _⟩ := hdraws
    exact ⟨rfl, rfl, rfl, rfl⟩
  obtain ⟨hnext, hreplies, hcalls, hroom⟩ := hready
  have hleft : (request.maxAttempts - 1).toNat = count := by omega
  rw [hleft] at hattempt
  obtain ⟨hmade, htries, hreply⟩ := (course_of_attempt hattempt).tries hdelay
  rw [hnext] at hmade htries hreply
  rw [hreplies, hcalls, hroom] at hreply
  obtain ⟨hkeep, hattempts, hallowed, htells⟩ :=
    conclude_ok (fun _ => Outcome.eq_of_error hreply) hconclude
  have hkeeps : World.Keeps last after := by
    have hmoves := keeps_keepCaptures request outcome last
    rwa [hkeep] at hmoves
  obtain ⟨kept, heffects, hkept⟩ := hkeeps.exists_effects
  refine ⟨prepared, ready, timeout, outcome, last, hprepare, htimeout, hreply, hkeep, hdraws,
    htries, hkeeps, ⟨kept, ?_, hkept⟩, ?_, ?_, ?_, ?_, htells⟩
  · rw [heffects, htries.effects_eq, hdraws.effects_eq]
  · obtain ⟨_, _, _, rfl, _⟩ := hkeeps
    obtain ⟨_, _, rfl, _⟩ := htries
    rw [hcalls]
  · obtain ⟨_, _, _, rfl, _⟩ := hkeeps
    obtain ⟨_, _, rfl, _⟩ := htries
    rfl
  · have hpos : 0 < attempts := attemptsFor_pos world count
    rw [hattempts, hmade]
    omega
  · rw [hallowed, hmax]

/-- A request for a random number: the first call times out, the server fails on the second one, and
the third reply is good, so that one of the four attempts is not made. -/
theorem run_attempts_until_good :
    let request : Request := {
      url := "/\x7b\x7b$randomInt\x7d\x7d"
      retry := some { count := 3, delay := some 10 }
      captures := [⟨.session, "seen", "status"⟩] }
    let world : World := { World.quiet with
      replies := fun n =>
        if n = 0 then .failure .timeout ""
        else .response (if n = 1 then 503 else 201) [] "" none 0 }
    ∃ seconds report after call outcome kept,
      Double.thousandth? (request.retryDelay {}) = some seconds ∧
      (request.run [] {}).on world = (.ok report, after) ∧
      after.effects = [.sent call, .slept seconds, .sent call, .slept seconds, .sent call] ++ kept ∧
      (∀ event ∈ kept, event.isKept) ∧
      report.attempts = 3 ∧ report.maxAttempts = 4 ∧
      outcome.status = 201 ∧ report.Tells request outcome := by
  intro request world
  have hok : ((request.run [] {}).on world).1.isOk = true := by decide +kernel
  have hattempts : attemptsFor (world.nextReplies (3 + 1)) = 3 := by decide
  have hseconds : (Double.thousandth? (request.retryDelay {})).isSome := by decide +kernel
  obtain ⟨report, after, hrun⟩ := Action.exists_on_of_isOk hok
  obtain ⟨seconds, hdelay⟩ := Option.isSome_iff_exists.mp hseconds
  obtain ⟨prepared, ready, timeout, outcome, last, -, -, hreply, -, -, -, -,
    ⟨kept, heffects, hkept⟩, -, -, hmade, hallowed, htells⟩ := run_attempts rfl rfl hdelay hrun
  rw [hattempts] at hreply heffects hmade
  refine ⟨seconds, report, after, _, outcome, kept, hdelay, hrun, heffects, hkept, hmade, hallowed,
    ?_, htells⟩
  exact (Outcome.of_response hreply).2

end Request

end RequestScript
