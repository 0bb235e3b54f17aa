import RequestScript.Proofs.Run.Attempts
import RequestScript.Proofs.Run.Steady
import RequestScript.Proofs.Script.Method

/-!
# What is shown before a run

A request can be shown with its placeholders replaced instead of being sent. Where it has neither a
form nor a body file, the run makes the request ready by replacing the same placeholders in the same
order, so that what is shown is what every call of the run carries.
-/

namespace RequestScript

/-- From one world to another one without draws, and with no other calls than one. -/
def World.CallsOnly (call : Call) (world after : World) : Prop :=
  after.dice = world.dice ∧ ∃ new, after.events = new ++ world.events ∧
    ∀ other, .sent other ∈ new → other = call

/-- A call carries what is shown of a request: its body as bytes, if it has one. -/
structure Call.Carries (call : Call) (shown : ResolvedRequest) : Prop where
  method : call.method = shown.method
  url : call.url = shown.url
  headers : call.headers = some shown.headers
  data : call.data = shown.body.map String.toUTF8
  parts : call.parts = none

/-- What is shown of a request, ready to be sent. -/
def ResolvedRequest.prepared (shown : ResolvedRequest) : Prepared where
  method := shown.method
  url := shown.url
  headers := shown.headers
  payload := shown.body.elim .nothing .text
  shown := shown.body

namespace World

variable {call : Call} {world after : World}

instance : IsPreorder World (CallsOnly call) where
  refl world := ⟨rfl, [], rfl, by simp⟩
  trans := by
    rintro world between after ⟨hdice, new, hnew, hcalls⟩ ⟨hlast, more, hmore, hothers⟩
    refine ⟨hlast.trans hdice, more ++ new, by rw [hmore, hnew, List.append_assoc], ?_⟩
    exact fun other hmem => (List.mem_append.mp hmem).elim (hothers other) (hcalls other)

/-- Keeping something is no call. -/
theorem Keeps.not_sent (h : Keeps world after) :
    ∃ new, after.events = new ++ world.events ∧ ∀ call, .sent call ∉ new := by
  obtain ⟨files, store, new, rfl, hnew⟩ := h
  refine ⟨new, rfl, fun call hmem => ?_⟩
  rcases hnew _ hmem with hlogged | hkept
  · cases hlogged
  · cases hkept

theorem Keeps.callsOnly (h : Keeps world after) : CallsOnly call world after := by
  obtain ⟨new, hnew, hnone⟩ := h.not_sent
  obtain ⟨files, store, _, rfl, -⟩ := h
  exact ⟨rfl, new, hnew, fun other hmem => absurd hmem (hnone other)⟩

/-- Drawing values is no call. -/
theorem Draws.not_sent (h : Draws world after) :
    ∃ logged, after.events = logged ++ world.events ∧ ∀ call, .sent call ∉ logged := by
  obtain ⟨dice, logged, rfl, hlogged⟩ := h
  refine ⟨logged, rfl, fun call hmem => ?_⟩
  cases hlogged _ hmem

end World

namespace Action

variable {call : Call}

theorem callsOnly_log (source message : String) :
    Moves (World.CallsOnly call) (log source message) :=
  fun _ => ⟨rfl, [.logged source message], rfl, by simp⟩

theorem callsOnly_sleep (milliseconds : Int) :
    Moves (World.CallsOnly call) (sleep milliseconds) := by
  unfold sleep
  refine .bind ?_ fun seconds => .bind (fun _ => ⟨rfl, [.slept seconds], rfl, by simp⟩) fun _ => ?_
  · cases Double.thousandth? milliseconds with
    | none => exact .throw _
    | some seconds => exact .pure _
  · exact (Moves.lift _).bind fun passed _ => ⟨rfl, [], rfl, by simp⟩

/-- An exchange makes its call. -/
theorem sent_exchange (method url : String) (headers : Option Headers) (payload : Payload)
    (timeout : Option Seconds) (world : World) :
    ∃ new, ((exchange method url headers payload timeout).on world).2.events =
        new ++ world.events ∧
      .sent (Call.make method url headers payload timeout) ∈ new := by
  obtain ⟨events, heffects, hexchange⟩ := on_exchange method url headers payload timeout world
  obtain ⟨new, hnew⟩ := (steady_exchange method url headers payload timeout).exists_events world
  refine ⟨new, hnew, ?_⟩
  have hall := World.effects_of_events hnew
  rw [hexchange, heffects, List.append_cancel_left_eq] at hall
  have hmem := List.mem_reverse.mp (hall ▸ List.mem_singleton_self _)
  exact (List.mem_filter.mp hmem).1

/-- An exchange makes no other call. -/
theorem callsOnly_exchange (method url : String) (headers : Option Headers) (payload : Payload)
    (timeout : Option Seconds) :
    Moves (World.CallsOnly (Call.make method url headers payload timeout))
      (exchange method url headers payload timeout) := by
  have hsend : Moves (World.CallsOnly (Call.make method url headers payload timeout))
      (send (Call.make method url headers payload timeout)) :=
    fun _ => ⟨rfl, [.sent _], rfl, by simp⟩
  unfold exchange
  refine (callsOnly_log _ _).bind fun _ => hsend.bind fun reply => ?_
  refine .bind_get fun world => (Moves.lift _).bind fun outcome => ?_
  dsimp only
  split
  · split
    · exact (callsOnly_log _ _).bind fun _ => .pure _
    · exact .pure _
  · exact .pure _

end Action

namespace Request

open RequestScript.Action

variable {request : Request} {defaults : Defaults} {prepared : Prepared}
  {timeout : Option Seconds}

/-! ## Attempts -/

/-- Attempts make no call but that of the prepared request. -/
theorem callsOnly_attempt (prepared : Prepared) (timeout : Option Seconds)
    (delay maxAttempts made : Int) (left : Nat) :
    Moves (World.CallsOnly (Call.make prepared.method prepared.url (some prepared.headers)
      prepared.payload timeout)) (attempt prepared timeout delay maxAttempts made left) := by
  induction left generalizing made with
  | zero =>
    unfold attempt
    exact (callsOnly_exchange _ _ _ _ _).bind fun _ => .pure _
  | succ left ih =>
    unfold attempt
    refine (callsOnly_exchange _ _ _ _ _).bind fun outcome => ?_
    split
    · exact (callsOnly_log _ _).bind fun _ => (callsOnly_sleep _).bind fun _ => ih _
    · exact .pure _

/-- There is an attempt. -/
theorem sent_attempt (prepared : Prepared) (timeout : Option Seconds) (delay maxAttempts made : Int)
    (left : Nat) (world : World) :
    ∃ new, ((attempt prepared timeout delay maxAttempts made left).on world).2.events =
        new ++ world.events ∧
      .sent (Call.make prepared.method prepared.url (some prepared.headers) prepared.payload
        timeout) ∈ new := by
  obtain ⟨first, hfirst, hsent⟩ := sent_exchange prepared.method prepared.url
    (some prepared.headers) prepared.payload timeout world
  have hrest : ∃ next : Outcome → Action (Outcome × Int), (∀ outcome, Steady (next outcome)) ∧
      attempt prepared timeout delay maxAttempts made left =
        exchange prepared.method prepared.url (some prepared.headers) prepared.payload timeout >>=
          next := by
    cases left with
    | zero => exact ⟨_, fun _ => .pure _, by rw [attempt]⟩
    | succ left =>
      refine ⟨_, fun outcome => ?_, by rw [attempt]⟩
      dsimp only
      split
      · refine (Steady.log _ _).bind fun _ => (steady_sleep _).bind fun _ => ?_
        exact steady_attempt _ _ _ _ _ _
      · exact .pure _
  obtain ⟨next, hsteady, heq⟩ := hrest
  rw [heq, on_bind]
  rcases hexchange : (exchange prepared.method prepared.url (some prepared.headers)
    prepared.payload timeout).on world with ⟨_ | outcome, between⟩ <;> rw [hexchange] at hfirst
  · exact ⟨first, hfirst, hsent⟩
  · obtain ⟨later, hlater⟩ := (hsteady outcome).exists_events between
    refine ⟨later ++ first, ?_, List.mem_append_right later hsent⟩
    dsimp only
    rw [hlater, hfirst, List.append_assoc]

theorem callsOnly_conclude (request : Request) (call : Call) (prepared : Prepared)
    (before : List Report) (start : Int) (outcome : Outcome) (attempts : Int) :
    Moves (World.CallsOnly call) (request.conclude prepared before start outcome attempts) :=
  (keeps_conclude request prepared before start outcome attempts).mono World.Keeps.callsOnly

/-! ## Showing and running -/

/-- Without a form and a body file a request is made ready as it is shown. -/
theorem prepare_eq_resolve (hform : request.form = [])
    (hfile : request.bodyFile.filter (!·.isEmpty) = none) :
    request.prepare = request.resolve >>= fun shown => pure shown.prepared := by
  have hpayload : request.preparePayload = (do
      let body ← interpolateGiven request.body
      return (body.elim .nothing .text, body)) := by
    unfold preparePayload interpolateGiven
    rw [hform, hfile]
    cases request.body.filter (!·.isEmpty) <;> simp
  have hnone : interpolateGiven request.bodyFile = pure none := by
    unfold interpolateGiven
    rw [hfile]
  unfold prepare resolve
  simp only [hpayload, hform, hnone, List.mapM_nil, bind_assoc, pure_bind]
  rfl

/-- Every call of a run without references carries the request as it was made ready for all of
them. -/
theorem sends_prepared (hpre : request.pre = []) {requests : List Request} {world after : World}
    {report : Report} (hrun : (request.run requests defaults).on world = (.ok report, after)) :
    ∃ prepared ready timeout, request.prepare.on world = (.ok prepared, ready) ∧
      after.dice = ready.dice ∧
      ∃ new, after.events = new ++ world.events ∧ (∃ call, .sent call ∈ new) ∧
        ∀ call, .sent call ∈ new → call =
          Call.make prepared.method prepared.url (some prepared.headers) prepared.payload
            timeout := by
  obtain ⟨prepared, ready, timeout, outcome, attempts, last, hprepare, -, hattempt, hconclude⟩ :=
    runAfter_steps (runAfter_of_run hpre hrun)
  have hdraws := (draws_prepare request).rel_of_on hprepare
  let call := Call.make prepared.method prepared.url (some prepared.headers) prepared.payload
    timeout
  have htries := (callsOnly_attempt prepared timeout (request.retryDelay defaults)
    request.maxAttempts 1 (request.maxAttempts - 1).toNat).rel_of_on hattempt
  have hsent := sent_attempt prepared timeout (request.retryDelay defaults)
    request.maxAttempts 1 (request.maxAttempts - 1).toNat ready
  have hends : World.CallsOnly call last after :=
    (callsOnly_conclude request call prepared [] world.elapsed outcome attempts).rel_of_on hconclude
  rw [hattempt] at hsent
  obtain ⟨hdice, made, hmade, honly⟩ := htries
  obtain ⟨same, hsame, hmem⟩ := hsent
  obtain rfl : made = same := List.append_cancel_right (hmade.symm.trans hsame)
  obtain ⟨hlast, more, hmore, hothers⟩ := hends
  obtain ⟨logged, hlogged, hnone⟩ := hdraws.not_sent
  refine ⟨prepared, ready, timeout, hprepare, hlast.trans hdice, more ++ made ++ logged, ?_,
    ⟨call, ?_⟩, ?_⟩
  · rw [hmore, hmade, hlogged, List.append_assoc, List.append_assoc]
  · exact List.mem_append_left logged (List.mem_append_right more hmem)
  · intro other hother
    rcases List.mem_append.mp hother with hother | hother
    · exact (List.mem_append.mp hother).elim (hothers other) (honly other)
    · exact absurd hother (hnone other)

/-- A prepared request whose method is in upper case is carried by its call. -/
theorem carries_make {shown : ResolvedRequest} (h : Text.uppercased shown.method = shown.method)
    (timeout : Option Seconds) :
    (Call.make shown.prepared.method shown.prepared.url (some shown.prepared.headers)
      shown.prepared.payload timeout).Carries shown := by
  obtain ⟨method, url, headers, body, bodyFile, form⟩ := shown
  cases body <;> exact ⟨h, rfl, rfl, rfl, rfl⟩

/-- What is shown of a request has its method. -/
theorem method_of_resolve {shown : ResolvedRequest} {world ready : World}
    (h : request.resolve.on world = (.ok shown, ready)) : shown.method = request.method := by
  unfold resolve at h
  obtain ⟨_, _, -, h⟩ := on_bind_ok h
  obtain ⟨_, _, -, h⟩ := on_bind_ok h
  obtain ⟨_, _, -, h⟩ := on_bind_ok h
  obtain ⟨_, _, -, h⟩ := on_bind_ok h
  obtain ⟨_, _, -, h⟩ := on_bind_ok h
  cases h
  rfl

/-- **What is shown of a request is what a run of it sends.** A request of a script without
references, form and body file, whose run no fault stops, is shown with the values that the run
draws, and every call of the run carries what is shown. -/
theorem run_carries_shown (hscript : request.StandsInScript) (hpre : request.pre = [])
    (hform : request.form = []) (hfile : request.bodyFile.filter (!·.isEmpty) = none)
    {requests : List Request} {world after : World} {report : Report}
    (hrun : (request.run requests defaults).on world = (.ok report, after)) :
    ∃ shown ready, request.resolve.on world = (.ok shown, ready) ∧ after.dice = ready.dice ∧
      ∃ new, after.events = new ++ world.events ∧ (∃ call, .sent call ∈ new) ∧
        ∀ call, .sent call ∈ new → call.Carries shown := by
  obtain ⟨prepared, ready, timeout, hprepare, hdice, new, hnew, hsent, hcalls⟩ :=
    sends_prepared hpre hrun
  rw [prepare_eq_resolve hform hfile] at hprepare
  obtain ⟨shown, between, hresolve, hshown⟩ := on_bind_ok hprepare
  obtain ⟨hprepared, rfl⟩ := Prod.mk.inj hshown
  obtain rfl : shown.prepared = prepared := Except.ok.inj hprepared
  have hupper : Text.uppercased shown.method = shown.method := by
    rw [method_of_resolve hresolve, hscript.uppercased_method]
  refine ⟨shown, between, hresolve, hdice, new, hnew, hsent, fun call hcall => ?_⟩
  exact hcalls call hcall ▸ carries_make hupper timeout

/-- A script with a request that is sent again where it fails, and draws values for its address, a
header and its body. -/
def drawingScript : String :=
  "###\n@retry 2 10\npost http://h/\x7b\x7b$randomInt\x7d\x7d\n" ++
    "X-Seen: \x7b\x7b$randomInt\x7d\x7d\n\nhello \x7b\x7b$randomInt\x7d\x7d\n"

/-- The first call times out, and the second one carries the same drawn values. -/
theorem run_carries_shown_again :
    let world : World := { World.quiet with
      dice := { source := fun n => 3 + n }
      replies := fun n => if n = 0 then .failure .timeout "" else .response 200 [] "" none 0 }
    ∃ document, Document.parse drawingScript = .ok document ∧ ∃ request ∈ document.requests,
      ∃ report after shown ready, (request.run [] {}).on world = (.ok report, after) ∧
      report.attempts = 2 ∧ request.resolve.on world = (.ok shown, ready) ∧
      shown.body = some "hello 5" ∧ after.dice = ready.dice ∧
      ∃ new, after.events = new ++ world.events ∧ (∃ call, .sent call ∈ new) ∧
        ∀ call, .sent call ∈ new → call.Carries shown := by
  intro world
  have hfacts : (Document.parse drawingScript).toOption.map (fun document =>
      document.requests.map fun request =>
        (request.pre.isEmpty && request.form.isEmpty && request.bodyFile.isNone,
          ((request.run [] {}).on world).1.toOption.map (·.attempts),
          (request.resolve.on world).1.toOption.bind (·.body))) =
      some [(true, some 2, some "hello 5")] := by
    decide +kernel
  cases hparse : Document.parse drawingScript with
  | error fault =>
    rw [hparse] at hfacts
    cases hfacts
  | ok document =>
    rw [hparse] at hfacts
    obtain ⟨request, hrequests, hrequest⟩ := List.map_eq_singleton_iff.mp (Option.some.inj hfacts)
    simp only [Prod.mk.injEq, Bool.and_eq_true, List.isEmpty_iff, Option.isNone_iff_eq_none]
      at hrequest
    obtain ⟨⟨⟨hpre, hform⟩, hfile⟩, hattempts, hbody⟩ := hrequest
    have hmem : request ∈ document.requests := hrequests ▸ List.mem_singleton_self _
    rcases hrun : (request.run [] {}).on world with ⟨_ | report, after⟩ <;> rw [hrun] at hattempts
    · cases hattempts
    · obtain ⟨shown, ready, hresolve, hdice, hcalls⟩ := run_carries_shown
        ⟨_, document, request.filePath, hparse, request, hmem, rfl⟩ hpre hform
        (by rw [hfile]; rfl) hrun
      rw [hresolve] at hbody
      exact ⟨document, rfl, request, hmem, report, after, shown, ready, hrun,
        Option.some.inj hattempts, hresolve, hbody, hdice, hcalls⟩

end Request

end RequestScript
