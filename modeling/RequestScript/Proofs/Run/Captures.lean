import RequestScript.Proofs.Run.Attempts
import RequestScript.Proofs.Run.Dispatches
import RequestScript.Proofs.Run.Steady
import RequestScript.Proofs.Script.Directive
import RequestScript.Proofs.Variables.Interpolation
import RequestScript.Proofs.World.Keeping

/-!
# What a run captures

A run looks at its last reply when it keeps what its request captures. Nothing else in it changes
the variables, so that what a capture finds is what a placeholder for its variable stands for
afterwards, unless a layer of higher precedence has the name.
-/

namespace RequestScript

open Text

/-- From one world to another one with the same variables, and the same replies to come. -/
structure World.Leaves (world after : World) : Prop where
  /-- The variables are the same. -/
  store : after.store = world.store
  /-- The replies are the same. -/
  replies : after.replies = world.replies

namespace World

variable {world between after : World}

theorem Leaves.trans (h : Leaves world between) (hafter : Leaves between after) :
    Leaves world after :=
  ⟨hafter.store.trans h.store, hafter.replies.trans h.replies⟩

theorem Draws.leaves (h : Draws world after) : Leaves world after := by
  obtain ⟨_, _, rfl, _⟩ := h
  exact ⟨rfl, rfl⟩

theorem Tries.leaves {call : Call} {seconds : Double} {count : Nat}
    (h : Tries call seconds count world after) : Leaves world after := by
  obtain ⟨_, _, rfl, _⟩ := h
  exact ⟨rfl, rfl⟩

theorem Waits.leaves {seconds : Double} (h : Waits seconds world after) : Leaves world after := by
  obtain ⟨_, _, rfl, _⟩ := h
  exact ⟨rfl, rfl⟩

end World

/-- What a capture finds in an outcome. -/
def Capture.findIn (capture : Capture) (outcome : Outcome) : Except Fault Datum :=
  find capture.query outcome.status outcome.headers (.json outcome.body)

/-- A store has received a text for a name in the layer of a scope. -/
structure Store.Receives (store after : Store) (scope : Scope) (name text : String) : Prop where
  /-- A placeholder with the name stands for the text, unless a layer of higher precedence has had a
  value for the name, which it stands for then. -/
  on_interpolate : ∀ clock dice,
    (after.interpolate clock ("\x7b\x7b" ++ name ++ "\x7d\x7d")).on dice =
      (.ok (((store.shadow? scope name).map Value.text).getD text), dice)
  /-- Nothing else has changed in any layer. -/
  held?_of_ne : ∀ place key, place ≠ scope ∨ key ≠ name →
    after.held? place key = store.held? place key

/-! ## Keeping one value -/

/-- What a capture finds is set as a text, and nothing is set where it finds nothing. -/
theorem Capture.on_keep_ok {outcome : Outcome} {capture : Capture} {world after : World}
    (h : (keep outcome capture).on world = (.ok (), after)) :
    ∃ found, capture.findIn outcome = .ok found ∧
      (found = .absent ∧ after.store = world.store ∨
        found ≠ .absent ∧ Store.SameLayers
          (world.store.withText capture.scope capture.variableName found.text) after.store) := by
  unfold keep at h
  obtain ⟨found, _, hfind, hkeep⟩ := Action.on_bind_ok h
  obtain ⟨hfound, rfl⟩ := Action.on_lift_ok hfind
  refine ⟨found, hfound, ?_⟩
  split at hkeep
  · obtain ⟨-, rfl⟩ := Prod.mk.inj hkeep
    exact .inl ⟨rfl, rfl⟩
  · next hne =>
    refine .inr ⟨hne, ?_⟩
    obtain ⟨_, set, hset, hlater⟩ := Action.on_bind_ok hkeep
    have hstore := Store.store_on_set capture.scope capture.variableName found world
    rw [hset] at hstore
    rw [← hstore]
    split at hlater
    · have hsame := Store.sameLayers_keep capture.variableName found set
      rw [hlater] at hsame
      exact hsame
    · obtain ⟨-, rfl⟩ := Prod.mk.inj hlater
      exact fun _ => rfl

/-! ## One request -/

namespace Request

variable {request : Request} {defaults : Defaults} {world after : World}

/-- Attempts leave the variables alone, and what comes back is the outcome of the last reply. -/
theorem Course.leaves {call : Call} {timeout : Option Seconds} {delay made : Int} {left : Nat}
    {outcome : Outcome} {attempts : Int}
    (h : Course call timeout delay left made world outcome attempts after) :
    World.Leaves world after ∧ world.calls < after.calls ∧
      Outcome.ofReply world.room timeout (world.replies (after.calls - 1)) = .ok outcome := by
  induction h with
  | last htries hreply _ =>
    have hcall := htries (Double.zero false)
    refine ⟨hcall.leaves, ?_⟩
    obtain ⟨_, _, rfl, _⟩ := hcall
    exact ⟨Nat.lt_succ_self _, hreply⟩
  | @again _ _ _ _ _ _ _ _ seconds htries _ _ hwait _ ih =>
    obtain ⟨hreplies, hcalls, hroom⟩ := (htries seconds).same hwait
    obtain ⟨hleaves, hlt, hreply⟩ := ih
    rw [hroom, hreplies] at hreply
    exact ⟨(htries seconds).leaves.trans (hwait.leaves.trans hleaves), by omega, hreply⟩

/-- A request that is run after others changes variables only by what it captures from its last
reply. -/
theorem runAfter_ok {start : Int} {before : List Report} {report : Report}
    (h : (request.runAfter defaults start before).on world = (.ok report, after)) :
    ∃ timeout outcome last, request.timeoutSeconds defaults = .ok timeout ∧
      Outcome.ofReply world.room timeout (world.replies (after.calls - 1)) = .ok outcome ∧
      World.Leaves world last ∧ after.replies = world.replies ∧
      (request.keepCaptures outcome).on last = (.ok (), after) := by
  obtain ⟨prepared, ready, timeout, outcome, _, last, hprepare, htimeout, hattempt, hconclude⟩ :=
    runAfter_steps h
  have hdraws : World.Draws world ready := (draws_prepare request).rel_of_on hprepare
  have hroom : ready.room = world.room := by
    obtain ⟨_, _, rfl, _⟩ := hdraws
    rfl
  obtain ⟨hleaves, _, hreply⟩ := (course_of_attempt hattempt).leaves
  rw [hroom, hdraws.leaves.replies] at hreply
  obtain ⟨hkeep, _⟩ := conclude_ok (fun _ => Outcome.eq_of_error hreply) hconclude
  have hkeeps : World.Keeps last after := (keeps_keepCaptures request outcome).rel_of_on hkeep
  have hafter : after.calls = last.calls ∧ after.replies = last.replies := by
    obtain ⟨_, _, _, rfl, _⟩ := hkeeps
    exact ⟨rfl, rfl⟩
  have hall := hdraws.leaves.trans hleaves
  rw [← hafter.1] at hreply
  exact ⟨timeout, outcome, last, htimeout, hreply, hall, hafter.2.trans hall.replies, hkeep⟩

end Request

namespace Dispatches

variable {defaults : Defaults} {requests : List Request} {world after : World}

/-- Dispatches leave the replies to come. -/
theorem replies_eq (h : Dispatches defaults requests world after) :
    after.replies = world.replies := by
  induction h with
  | nil world room => rfl
  | logged source message _ ih => exact ih
  | cons hrun _ ih =>
    obtain ⟨_, _, _, _, _, _, hreplies, _⟩ := Request.runAfter_ok hrun
    exact ih.trans hreplies

/-- Without captures dispatches leave the variables alone. -/
theorem store_eq (h : Dispatches defaults requests world after)
    (hnone : ∀ request ∈ requests, request.captures = []) : after.store = world.store := by
  induction h with
  | nil world room => rfl
  | logged source message _ ih => exact ih hnone
  | @cons request rest _ _ _ _ _ _ _ hrun _ ih =>
    obtain ⟨_, outcome, last, _, _, hleaves, _, hkeep⟩ := Request.runAfter_ok hrun
    have hkept : request.keepCaptures outcome = pure () := by
      rw [Request.keepCaptures, hnone request List.mem_cons_self]
      split <;> rfl
    rw [hkept, Action.on_pure] at hkeep
    obtain ⟨-, rfl⟩ := Prod.mk.inj hkeep
    exact (ih fun other hmem => hnone other (List.mem_cons_of_mem _ hmem)).trans hleaves.store

end Dispatches

namespace Request

variable {request : Request} {requests : List Request} {defaults : Defaults} {world after : World}
  {report : Report}

/-- A run that no fault stops runs its request in the world that the requests before it leave. -/
theorem exists_runAfter_of_run
    (h : (request.run requests defaults).on world = (.ok report, after)) :
    ∃ reports between, Dispatches defaults (Step.allRequests (Plan.before requests request)) world
        between ∧ between.room = world.room ∧
      (request.runAfter defaults world.elapsed reports).on between = (.ok report, after) := by
  rw [run, Action.on_bind, Action.on_get] at h
  obtain ⟨reports, between, hbefore, hrun⟩ := Action.on_bind_ok h
  have hroom := (steady_runSteps defaults (Plan.before requests request)).room_eq world
  rw [hbefore] at hroom
  exact ⟨reports, between, dispatches_of_runSteps _ hbefore, hroom, hrun⟩

/-- **What a capture hands on.** A run that no fault stops, of a request with one capture of those
that can be written, looks at its last reply. Where a response came back and the capture finds
something there, the store receives it; otherwise no variable has changed since the requests before
it ran, which change none themselves where they capture nothing. -/
theorem run_captures {line : List Char} {capture : Capture}
    (hline : ScriptLine.read (trim line) = .ok (.directive (some (.capture capture))))
    (hcaptures : request.captures = [capture])
    (hrun : (request.run requests defaults).on world = (.ok report, after)) :
    ∃ between timeout outcome,
      Dispatches defaults (Step.allRequests (Plan.before requests request)) world between ∧
      ((∀ other ∈ Step.allRequests (Plan.before requests request), other.captures = []) →
        between.store = world.store) ∧
      request.timeoutSeconds defaults = .ok timeout ∧
      Outcome.ofReply world.room timeout (world.replies (after.calls - 1)) = .ok outcome ∧
      ((outcome.error ≠ none ∨ capture.findIn outcome = .ok .absent) ∧
          after.store = between.store ∨
        outcome.error = none ∧ ∃ found, found ≠ .absent ∧ capture.findIn outcome = .ok found ∧
          between.store.Receives after.store capture.scope capture.variableName found.text) := by
  have hname : Store.isName capture.variableName.toList = true := by
    have hcapture : capture.WellFormed := ScriptLine.wellFormed_read hline
    obtain ⟨hne, hall⟩ := isAll_iff.mp hcapture.variableName
    exact isAll_iff.mpr ⟨hne, fun c hc => by rw [hall c hc, Bool.true_or]⟩
  obtain ⟨reports, between, hdispatches, hroom, hrunAfter⟩ := exists_runAfter_of_run hrun
  obtain ⟨timeout, outcome, last, htimeout, hreply, hleaves, _, hkeep⟩ := runAfter_ok hrunAfter
  rw [hroom, hdispatches.replies_eq] at hreply
  refine ⟨between, timeout, outcome, hdispatches, hdispatches.store_eq, htimeout, hreply, ?_⟩
  rw [keepCaptures, hcaptures] at hkeep
  cases herror : outcome.error with
  | some error =>
    rw [herror, Action.on_pure] at hkeep
    obtain ⟨-, rfl⟩ := Prod.mk.inj hkeep
    exact .inl ⟨.inl (by simp), hleaves.store⟩
  | none =>
    rw [herror] at hkeep
    obtain ⟨_, _, hkept, hreturn⟩ := Action.on_bind_ok hkeep
    obtain ⟨-, rfl⟩ := Prod.mk.inj hreturn
    obtain ⟨found, hfound, hstore⟩ := Capture.on_keep_ok hkept
    rw [hleaves.store] at hstore
    rcases hstore with ⟨rfl, hstore⟩ | ⟨hne, hsame⟩
    · exact .inl ⟨.inr hfound, hstore⟩
    · refine .inr ⟨rfl, found, hne, hfound, fun clock dice => ?_, fun place key hother => ?_⟩
      · rw [Store.on_interpolate_name _ clock hname dice, Store.get_of_sameLayers hsame,
          Store.get_withText]
      · rw [Store.held?_of_sameLayers hsame, Store.held?_withText_of_ne hother]

/-- A request that keeps a number of its response beside the script. -/
theorem run_captures_id :
    let request : Request := { url := "/", captures := [⟨.collection, "first.id", "body.id"⟩] }
    let world : World := { World.quiet with
      replies := fun _ => .response 200 [] "\x7b\"id\": 7\x7d" none 0 }
    ∃ report after, (request.run [] {}).on world = (.ok report, after) ∧
      ∀ clock dice, (after.store.interpolate clock "\x7b\x7bfirst.id\x7d\x7d").on dice =
        (.ok "7", dice) := by
  intro request world
  have hok : ((request.run [] {}).on world).1.isOk = true := by decide +kernel
  obtain ⟨report, after, hrun⟩ := Action.exists_on_of_isOk hok
  have hline : ScriptLine.read (trim "@capture collection.first.id = body.id".toList) =
      .ok (.directive (some (.capture ⟨.collection, "first.id", "body.id"⟩))) := by
    decide +kernel
  obtain ⟨between, timeout, outcome, _, hstore, _, hreply, hend⟩ := run_captures hline rfl hrun
  have hresponse : Outcome.ofResponse world.room 200 [] "\x7b\"id\": 7\x7d" none 0 = .ok outcome :=
    hreply
  have hfinds : (Outcome.ofResponse world.room 200 [] "\x7b\"id\": 7\x7d" none 0).map
      (fun outcome => (outcome.error, (Capture.findIn ⟨.collection, "first.id", "body.id"⟩
        outcome).map Datum.text)) = .ok (none, .ok "7") := by
    decide +kernel
  rw [hresponse] at hfinds
  obtain ⟨hnone, htext⟩ := Prod.mk.inj (Except.ok.inj hfinds)
  rcases hend with ⟨herror | habsent, _⟩ | ⟨_, found, _, hfound, hreceives⟩
  · exact absurd hnone herror
  · rw [habsent] at htext
    exact absurd (Except.ok.inj htext) (by decide)
  · rw [hfound] at htext
    refine ⟨report, after, hrun, fun clock dice => ?_⟩
    have hnothing : Step.allRequests (Plan.before [] request) = [] := rfl
    have hempty : between.store = {} := hstore (by simp [hnothing])
    have hfilled := hreceives.on_interpolate clock dice
    rw [hempty, Except.ok.inj htext] at hfilled
    exact hfilled

end Request

end RequestScript
