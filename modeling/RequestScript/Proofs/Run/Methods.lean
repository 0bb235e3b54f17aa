import RequestScript.Proofs.Plan.References
import RequestScript.Proofs.Run.Preview
import RequestScript.Proofs.Script.MethodLine

/-!
# Methods on the wire

A request of a script has the method that its method line spells, and every call that is made when
it is sent has this method.
-/

namespace RequestScript

open Text

/-- From one world to another one with no other calls than those of a kind. -/
def World.CallsAmong (kind : Call → Prop) (world after : World) : Prop :=
  ∃ new, after.events = new ++ world.events ∧ ∀ call, .sent call ∈ new → kind call

/-- An action makes calls of a kind and no other ones, and at least one unless a fault stops it. -/
structure Action.Sends {α : Type} (kind : Call → Prop) (action : Action α) : Prop where
  /-- It makes no other calls. -/
  among : Action.Moves (World.CallsAmong kind) action
  /-- It makes a call if it ends well. -/
  sent : ∀ {world after : World} {result : α}, action.on world = (.ok result, after) →
    ∃ new, after.events = new ++ world.events ∧ ∃ call, .sent call ∈ new

namespace World

variable {kind : Call → Prop} {world after : World}

instance : IsPreorder World (CallsAmong kind) where
  refl world := ⟨[], rfl, by simp⟩
  trans := by
    rintro world between after ⟨new, hnew, hcalls⟩ ⟨more, hmore, hothers⟩
    refine ⟨more ++ new, by rw [hmore, hnew, List.append_assoc], fun call hmem => ?_⟩
    exact (List.mem_append.mp hmem).elim (hothers call) (hcalls call)

theorem CallsOnly.callsAmong {call : Call} (h : CallsOnly call world after) (hkind : kind call) :
    CallsAmong kind world after := by
  obtain ⟨-, new, hnew, honly⟩ := h
  exact ⟨new, hnew, fun other hmem => honly other hmem ▸ hkind⟩

theorem Draws.callsAmong (h : Draws world after) : CallsAmong kind world after := by
  obtain ⟨logged, hlogged, hnone⟩ := h.not_sent
  exact ⟨logged, hlogged, fun call hmem => absurd hmem (hnone call)⟩

theorem Keeps.callsAmong (h : Keeps world after) : CallsAmong kind world after := by
  obtain ⟨new, hnew, hnone⟩ := h.not_sent
  exact ⟨new, hnew, fun call hmem => absurd hmem (hnone call)⟩

end World

theorem Call.method_make (method url : String) (headers : Option Headers) (payload : Payload)
    (timeout : Option Seconds) :
    (Call.make method url headers payload timeout).method = uppercased method := by
  cases payload <;> rfl

open RequestScript.Action

theorem Action.callsAmong_deeper {α : Type} {kind : Call → Prop} {action : Action α} (levels : Nat)
    (h : Moves (World.CallsAmong kind) action) :
    Moves (World.CallsAmong kind) (deeper levels action) := by
  intro world
  rw [on_deeper]
  split
  · exact Std.Refl.refl world
  · exact h (world.moved (world.room - levels) world.events)

namespace Request

variable {request : Request} {requests : List Request} {defaults : Defaults} {kind : Call → Prop}

/-! ## One request -/

theorem callsAmong_dispatch (request : Request) (defaults : Defaults) (prepared : Prepared)
    (before : List Report) (start : Int) :
    Moves (World.CallsAmong (·.method = uppercased prepared.method))
      (request.dispatch defaults prepared before start) := by
  unfold dispatch
  refine (Moves.lift _).bind fun timeout => .bind ?_ fun result => ?_
  · exact (callsOnly_attempt prepared timeout _ _ _ _).mono fun hcalls =>
      hcalls.callsAmong (Call.method_make _ _ _ _ _)
  · exact (keeps_conclude request prepared before start result.1 result.2).mono
      World.Keeps.callsAmong

/-- Every call for a request has the upper case of its method. -/
theorem callsAmong_runAfter (request : Request) (defaults : Defaults) (start : Int)
    (before : List Report) :
    Moves (World.CallsAmong (·.method = uppercased request.method))
      (request.runAfter defaults start before) := by
  unfold runAfter prepare
  simp only [bind_assoc, pure_bind]
  -- Until the request is ready to be sent, values are drawn and no call is made.
  refine ((draws_resolveUrl request).mono World.Draws.callsAmong).bind fun url => ?_
  refine ((draws_resolveHeaders request).mono World.Draws.callsAmong).bind fun headers => ?_
  refine ((draws_preparePayload request).mono World.Draws.callsAmong).bind fun body => ?_
  obtain ⟨payload, shown⟩ := body
  exact callsAmong_dispatch request defaults
    { method := request.method, url, headers, payload, shown } before start

/-- A request that no fault stops is sent. -/
theorem sent_runAfter {start : Int} {before : List Report} {world after : World} {report : Report}
    (h : (request.runAfter defaults start before).on world = (.ok report, after)) :
    ∃ new, after.events = new ++ world.events ∧ ∃ call, .sent call ∈ new := by
  obtain ⟨prepared, ready, timeout, outcome, attempts, last, hprepare, -, hattempt, hconclude⟩ :=
    runAfter_steps h
  obtain ⟨logged, hlogged, -⟩ := ((draws_prepare request).rel_of_on hprepare).not_sent
  obtain ⟨tried, htried, hsent⟩ := sent_attempt prepared timeout (request.retryDelay defaults)
    request.maxAttempts 1 (request.maxAttempts - 1).toNat ready
  rw [hattempt] at htried
  obtain ⟨kept, hkept, -⟩ :=
    ((keeps_conclude request prepared before start outcome attempts).rel_of_on hconclude).not_sent
  refine ⟨kept ++ tried ++ logged, ?_, _, List.mem_append_left _ (List.mem_append_right _ hsent)⟩
  rw [hkept, List.append_assoc, List.append_assoc, ← hlogged, ← htried]

/-! ## Whole runs -/

mutual

/-- What holds of the calls for each request of a step holds of all calls of the step. -/
theorem callsAmong_runStep (step : Step)
    (h : ∀ x ∈ step.requests, ∀ start before,
      Moves (World.CallsAmong kind) (x.runAfter defaults start before)) :
    Moves (World.CallsAmong kind) (runStep defaults step) := by
  match step with
  | .run request before =>
    rw [Step.requests] at h
    obtain ⟨hbefore, hself⟩ := List.forall_mem_append.mp h
    rw [runStep]
    refine .bind (callsAmong_deeper _ (.bind_get fun world => ?_)) fun _ => .pure _
    exact (callsAmong_runSteps before hbefore).bind fun reports =>
      hself request (List.mem_singleton_self request) _ _
  | .repeated id | .unknown id =>
    rw [runStep]
    exact ((draws_log _ _).mono World.Draws.callsAmong).bind fun _ => .pure _
termination_by structural step

theorem callsAmong_runSteps (steps : List Step)
    (h : ∀ x ∈ Step.allRequests steps, ∀ start before,
      Moves (World.CallsAmong kind) (x.runAfter defaults start before)) :
    Moves (World.CallsAmong kind) (runSteps defaults steps) := by
  match steps with
  | [] =>
    rw [runSteps]
    exact .pure _
  | step :: rest =>
    rw [Step.allRequests] at h
    obtain ⟨hstep, hrest⟩ := List.forall_mem_append.mp h
    rw [runSteps]
    refine (callsAmong_runStep step hstep).bind fun report => ?_
    exact (callsAmong_runSteps rest hrest).bind fun reports => .pure _
termination_by structural steps

end

/-- What holds of the calls for each request holds of all calls of a run. -/
theorem callsAmong_run (hmem : request ∈ requests)
    (h : ∀ x ∈ requests, ∀ start before,
      Moves (World.CallsAmong kind) (x.runAfter defaults start before)) :
    Moves (World.CallsAmong kind) (request.run requests defaults) := by
  have horder : Plan.IsOrder requests request _ := Plan.isOrder_iff.mpr rfl
  have hsteps := horder.mem_requests hmem
  unfold run
  refine .bind_get fun world => .bind (callsAmong_runSteps _ fun x hx => ?_) fun reports => ?_
  · exact h x (hsteps x (List.mem_append_left _ hx))
  · exact h request hmem _ _

/-- A run that no fault stops sends its request. -/
theorem sent_run {world after : World} {report : Report}
    (h : (request.run requests defaults).on world = (.ok report, after)) :
    ∃ new, after.events = new ++ world.events ∧ ∃ call, .sent call ∈ new := by
  obtain ⟨_, _, hstart, hsteps⟩ := on_bind_ok h
  obtain ⟨-, rfl⟩ := Prod.mk.inj hstart
  obtain ⟨reports, between, hbefore, hrun⟩ := on_bind_ok hsteps
  obtain ⟨earlier, hearlier⟩ :=
    (steady_runSteps defaults (Plan.before requests request)).exists_events world
  rw [hbefore] at hearlier
  obtain ⟨new, hnew, call, hcall⟩ := sent_runAfter hrun
  refine ⟨new ++ earlier, ?_, call, List.mem_append_left earlier hcall⟩
  rw [hnew, List.append_assoc, ← hearlier]

/-- A request that stands in a file, or in none. -/
def placed (request : Request) (file : Option String) : Request :=
  { request with filePath := file }

end Request

namespace Document

/-- **The methods of requests**, for every script, every request of it and every file that it may
be in: the method is what the method line spells, in upper case, and every call for the request has
this method, whatever happens in the run. -/
theorem parse_spells_methods {text : String} {document : Document}
    (hparse : parse text = .ok document) :
    ∀ request ∈ document.requests,
      (∃ verb word, SpellsMethod (lines text.toList) request verb word) ∧
      ∀ (file : Option String) (defaults : Defaults),
        (∀ start before, Sends (·.method = request.method)
          ((request.placed file).runAfter defaults start before)) ∧
        Sends (fun call => ∃ other ∈ document.requests, call.method = other.method)
          ((request.placed file).run (document.requests.map (·.placed file)) defaults) := by
  have hcalls : ∀ request ∈ document.requests, ∀ file defaults start before,
      Moves (World.CallsAmong (·.method = request.method))
        ((request.placed file).runAfter defaults start before) := by
    intro request hmem file defaults start before
    have hscript : (request.placed file).StandsInScript :=
      ⟨text, document, file, hparse, request, hmem, rfl⟩
    have hupper : uppercased request.method = request.method := hscript.uppercased_method
    have hmade := Request.callsAmong_runAfter (request.placed file) defaults start before
    rwa [Request.placed, hupper] at hmade
  intro request hmem
  refine ⟨exists_spellsMethod hparse hmem, fun file defaults => ⟨fun start before =>
    ⟨hcalls request hmem file defaults start before, Request.sent_runAfter⟩, ?_, Request.sent_run⟩⟩
  refine Request.callsAmong_run (List.mem_map_of_mem hmem) fun x hx start before => ?_
  obtain ⟨other, hother, rfl⟩ := List.mem_map.mp hx
  refine (hcalls other hother file defaults start before).mono ?_
  rintro world after ⟨new, hnew, hmethods⟩
  exact ⟨new, hnew, fun call hcall => ⟨other, hother, hmethods call hcall⟩⟩

/-- A script with methods in small letters, with a long s, a dotless i and a dotted capital i. -/
def spellingScript : String :=
  "GeT http://h/a\n###\npoſt http://h/b\n###\noptıons http://h/c\n###\nOPTİONS http://h/d\n"

theorem parse_spells_methods_spellingScript :
    ∃ document, parse spellingScript = .ok document ∧
      document.requests.map (·.method) = ["GET", "POST", "OPTIONS", "OPTİONS"] ∧
      ∀ request ∈ document.requests,
        (∃ verb word, SpellsMethod (lines spellingScript.toList) request verb word) ∧
        ∀ (file : Option String) (defaults : Defaults),
          (∀ start before, Sends (·.method = request.method)
            ((request.placed file).runAfter defaults start before)) ∧
          Sends (fun call => ∃ other ∈ document.requests, call.method = other.method)
            ((request.placed file).run (document.requests.map (·.placed file)) defaults) := by
  have hfacts : (parse spellingScript).map (fun document => document.requests.map (·.method)) =
      .ok ["GET", "POST", "OPTIONS", "OPTİONS"] := by
    decide +kernel
  obtain ⟨document, hparse, hmethods⟩ := map_eq_ok_iff.mp hfacts
  exact ⟨document, hparse, hmethods, parse_spells_methods hparse⟩

/-- A method that is spelled with a dotted capital i is none of the methods. -/
theorem dotted_method_not_listed :
    ¬∀ text document, parse text = .ok document → ∀ request ∈ document.requests,
      request.method.toList ∈ ScriptLine.methods := by
  intro hmethods
  let text := "OPTİONS http://h/\n"
  have hfacts : (parse text).map (fun document => document.requests.map (·.method)) =
      .ok ["OPTİONS"] := by
    decide +kernel
  obtain ⟨document, hparse, hdocument⟩ := map_eq_ok_iff.mp hfacts
  obtain ⟨request, hmem, hmethod⟩ := List.mem_map.mp (hdocument ▸ List.mem_singleton_self _)
  have hlisted := hmethods text document hparse request hmem
  rw [hmethod] at hlisted
  exact absurd hlisted (by decide)

end Document

end RequestScript
