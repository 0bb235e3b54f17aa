import RequestScript.History
import RequestScript.Proofs.Run.Steady
import RequestScript.Proofs.World.Mirrors

/-!
# Runs that differ in credentials

Alike requests run alike: the same requests run before them in the same order, the same calls are
made but for the values that authorise, and the reports differ in nothing but these values.
-/

namespace RequestScript

open List (Forall₂)
open RequestScript.Action

/-- Steps of alike requests. -/
inductive Step.Alike : Step → Step → Prop
  | run {request other : Request} {before others : List Step} :
      request.Alike other → Forall₂ Step.Alike before others →
      Step.Alike (.run request before) (.run other others)
  | repeated (id : String) : Step.Alike (.repeated id) (.repeated id)
  | unknown (id : String) : Step.Alike (.unknown id) (.unknown id)

/-- Requests that are ready to be sent and differ in nothing but the values that authorise. -/
structure Prepared.Alike (prepared other : Prepared) : Prop where
  eq : other = { prepared with headers := other.headers }
  headers : prepared.headers.masked = other.headers.masked

/-- Reports that differ in nothing but the values that authorise and that tell the same of the runs
before. -/
structure Report.Alike (report other : Report) : Prop where
  eq : other = { report with requestHeaders := other.requestHeaders, before := other.before }
  headers : report.requestHeaders.masked = other.requestHeaders.masked
  before : report.before.mapM Report.beforeLine = other.before.mapM Report.beforeLine

namespace Plan

variable {requests others : List Request}

/-- A reference to no request. -/
theorem steps_unknown {visited : List String} {id : String} (hid : id ∉ visited)
    (hfind : Request.find? requests id = none) (rest : List String) :
    steps requests visited (id :: rest) =
      (.unknown id :: (steps requests visited rest).1, (steps requests visited rest).2) := by
  rw [steps, dif_neg hid]
  split
  · rfl
  · next hfound => simp [hfind] at hfound

/-- A reference to a request that is to run. -/
theorem steps_found {visited : List String} {id : String} {request : Request} (hid : id ∉ visited)
    (hfind : Request.find? requests id = some request) (rest : List String) :
    let inner := steps requests (id :: visited) request.pre
    let more := steps requests inner.2.val rest
    (steps requests visited (id :: rest)).1 = .run request inner.1 :: more.1 ∧
      (steps requests visited (id :: rest)).2.val = more.2.val := by
  rw [steps, dif_neg hid]
  split
  · next hfound => simp [hfind] at hfound
  · next found hfound =>
    obtain rfl : request = found := by simpa [hfind] using hfound
    exact ⟨rfl, rfl⟩

/-- Alike requests refer to each other alike. -/
theorem rel_steps (h : Forall₂ Request.Alike requests others) (visited ids : List String) :
    Forall₂ Step.Alike (steps requests visited ids).1 (steps others visited ids).1 ∧
      (steps requests visited ids).2.val = (steps others visited ids).2.val := by
  induction visited, ids using steps.induct requests with
  | case1 visited =>
    rw [steps, steps]
    exact ⟨.nil, rfl⟩
  | case2 visited id rest hid more after hmore ih =>
    rw [steps, steps, dif_pos hid, dif_pos hid]
    exact ⟨.cons (.repeated id) ih.1, ih.2⟩
  | case3 visited id rest hid hfind more after hmore ih =>
    rcases cases_of_rel (Request.rel_requestFind? h id) with ⟨-, hother⟩ | ⟨_, _, hsome, -⟩
    · rw [steps_unknown hid hfind, steps_unknown hid hother]
      exact ⟨.cons (.unknown id) ih.1, ih.2⟩
    · simp [hfind] at hsome
  | case4 visited id rest hid request hfind _ before inner hbefore _ more after hmore ih ihrest =>
    rcases cases_of_rel (Request.rel_requestFind? h id) with
      ⟨hnone, -⟩ | ⟨found, other, hsome, hother, halike⟩
    · simp [hfind] at hnone
    · obtain rfl : request = found := Option.some.inj (hfind.symm.trans hsome)
      have hpre : other.pre = request.pre := by rw [halike.eq]
      obtain rfl : inner = (steps requests (id :: visited) request.pre).2 := by rw [hbefore]
      obtain ⟨hsteps, hafter⟩ := steps_found hid hfind rest
      obtain ⟨hothers, hlast⟩ := steps_found hid hother rest
      rw [hpre, ← ih.2] at hothers hlast
      rw [hsteps, hafter, hothers, hlast]
      exact ⟨.cons (.run halike ih.1) ihrest.1, ihrest.2⟩

theorem rel_before {request other : Request} (h : Forall₂ Request.Alike requests others)
    (halike : request.Alike other) :
    Forall₂ Step.Alike (before requests request) (before others other) := by
  have hid : other.id = request.id := by rw [halike.eq]
  have hpre : other.pre = request.pre := by rw [halike.eq]
  unfold before
  rw [hid, hpre]
  cases h with
  | nil => exact .nil
  | cons hfirst hrest => exact (rel_steps (.cons hfirst hrest) _ _).1

end Plan

namespace Report

variable {report other : Report}

/-- The line about a run before another one does not tell what authorised. -/
theorem Alike.beforeLine_eq (h : report.Alike other) : other.beforeLine = report.beforeLine := by
  rw [h.eq]
  rfl

theorem beforeLines_eq {reports others : List Report} (h : Forall₂ Report.Alike reports others) :
    reports.mapM beforeLine = others.mapM beforeLine := by
  induction h with
  | nil => rfl
  | cons hfirst _ ih => rw [List.mapM_cons, List.mapM_cons, hfirst.beforeLine_eq, ih]

theorem Alike.isPassed_eq (h : report.Alike other) : other.isPassed = report.isPassed := by
  rw [h.eq]
  rfl

/-- The text of a report does not tell what authorised. -/
theorem Alike.text_eq (h : report.Alike other) (verbose raw : Bool) :
    other.text verbose raw = report.text verbose raw := by
  have hlines : other.lines verbose = report.lines verbose := by
    unfold lines
    rw [← h.before, h.eq]
    rfl
  unfold text
  rw [hlines, h.eq]
  rfl

end Report

/-- The history does not tell what authorised. -/
theorem Report.Alike.entry_eq {report other : Report} (h : report.Alike other) (id : Option String)
    (timestamp : String) :
    History.entry other id timestamp = History.entry report id timestamp := by
  have hkept : History.keptHeaders other.requestHeaders =
      History.keptHeaders report.requestHeaders := by
    unfold History.keptHeaders
    rw [← Headers.without_masked, ← h.headers, Headers.without_masked]
  unfold History.entry
  rw [hkept, h.eq]

namespace Request

variable {request other : Request} {defaults : Defaults}

/-- A value that authorises is literal where it differs, and then it is sent as it is. -/
theorem mirrors_resolveHeaders (h : request.Alike other) :
    Mirrors (fun headers others : Headers => headers.masked = others.masked)
      request.resolveHeaders other.resolveHeaders := by
  have hentries : Mirrors (Forall₂ fun entry other : String × String =>
      Headers.maskedEntry entry = Headers.maskedEntry other)
      request.resolveHeaders other.resolveHeaders := by
    refine .mapM (fun {entry last} hentry => ?_) h.headers
    obtain ⟨name, value⟩ := entry
    obtain ⟨_, text⟩ := last
    obtain ⟨⟨⟩, rfl | ⟨hname, hvalue, htext⟩⟩ := hentry
    · exact (steady_interpolate _).mirrors.bind_eq fun _ => .pure rfl
    · intro world events _ after hevents hrun
      rw [on_bind, on_interpolate_literal hvalue] at hrun
      obtain ⟨⟨⟩, rfl⟩ := Prod.mk.inj hrun
      refine ⟨(name, text), events, ?_, hevents, ?_⟩
      · rw [on_bind, on_interpolate_literal htext]
        rfl
      · exact (if_pos hname).trans (if_pos hname).symm
  intro world events headers after hevents hrun
  obtain ⟨others, more, hother, hmore, hrel⟩ := hentries _ _ _ _ hevents hrun
  refine ⟨others, more, hother, hmore, ?_⟩
  exact List.forall₂_eq_eq_eq ▸
    (List.forall₂_map_left_iff.mpr (List.forall₂_map_right_iff.mpr hrel))

theorem mirrors_prepare (h : request.Alike other) :
    Mirrors Prepared.Alike request.prepare other.prepare := by
  have hurl : other.resolveUrl = request.resolveUrl := by rw [h.eq]; rfl
  have hpayload : other.preparePayload = request.preparePayload := by rw [h.eq]; rfl
  have hmethod : other.method = request.method := by rw [h.eq]
  unfold prepare
  rw [hurl, hpayload, hmethod]
  refine (steady_resolveUrl request).mirrors.bind_eq fun url => ?_
  refine (mirrors_resolveHeaders h).bind fun hheaders => ?_
  refine (steady_preparePayload request).mirrors.bind_eq fun payload => ?_
  exact .pure ⟨rfl, hheaders⟩

theorem mirrors_attempt {prepared ready : Prepared} (h : prepared.Alike ready)
    (timeout : Option Seconds) (delay maxAttempts made : Int) (left : Nat) :
    Mirrors Eq (attempt prepared timeout delay maxAttempts made left)
      (attempt ready timeout delay maxAttempts made left) := by
  have hexchange := mirrors_exchange h.headers prepared.method prepared.url prepared.payload timeout
  have hmethod : ready.method = prepared.method := by rw [h.eq]
  have hurl : ready.url = prepared.url := by rw [h.eq]
  have hpayload : ready.payload = prepared.payload := by rw [h.eq]
  induction left generalizing made with
  | zero =>
    rw [attempt, attempt, hmethod, hurl, hpayload]
    exact hexchange.bind_eq fun _ => .pure rfl
  | succ left ih =>
    rw [attempt, attempt, hmethod, hurl, hpayload]
    refine hexchange.bind_eq fun outcome => ?_
    split
    · refine (Steady.log _ _).mirrors.bind_eq fun _ => ?_
      exact (steady_sleep _).mirrors.bind_eq fun _ => ih _
    · exact .pure rfl

theorem mirrors_conclude {prepared ready : Prepared} {before others : List Report}
    (h : request.Alike other) (hprepared : prepared.Alike ready)
    (hbefore : Forall₂ Report.Alike before others) (start : Int) (outcome : Outcome)
    (attempts : Int) :
    Mirrors Report.Alike (request.conclude prepared before start outcome attempts)
      (other.conclude ready others start outcome attempts) := by
  have hlines := Report.beforeLines_eq hbefore
  have hduration := (Steady.of_reads (reads_elapsedSince start)).mirrors
  have hcaptures : other.captures = request.captures := by rw [h.eq]
  have hassertions : other.assertions = request.assertions := by rw [h.eq]
  have hready : ready = { prepared with headers := ready.headers } := hprepared.eq
  unfold conclude
  dsimp only
  rw [hcaptures, hassertions]
  split
  · refine hduration.bind_eq fun _ => .pure ⟨?_, hprepared.headers, hlines⟩
    rw [h.eq, hready]
    rfl
  · refine (Steady.forM (Capture.steady_keep _) _).mirrors.bind_eq fun _ => ?_
    refine hduration.bind_eq fun _ => (Steady.lift _).mirrors.bind_eq fun _ => ?_
    refine .pure ⟨?_, hprepared.headers, hlines⟩
    rw [h.eq, hready]
    rfl

theorem mirrors_runAfter {before others : List Report} (h : request.Alike other)
    (hbefore : Forall₂ Report.Alike before others) (start : Int) :
    Mirrors Report.Alike (request.runAfter defaults start before)
      (other.runAfter defaults start others) := by
  have htimeout : other.timeoutSeconds defaults = request.timeoutSeconds defaults := by
    rw [h.eq]
    rfl
  have hdelay : other.retryDelay defaults = request.retryDelay defaults := by rw [h.eq]; rfl
  have hmax : other.maxAttempts = request.maxAttempts := by rw [h.eq]; rfl
  unfold runAfter dispatch
  refine (mirrors_prepare h).bind fun hprepared => ?_
  rw [htimeout, hdelay, hmax]
  refine (Steady.lift _).mirrors.bind_eq fun timeout => ?_
  refine (mirrors_attempt hprepared _ _ _ _ _).bind_eq fun result => ?_
  exact mirrors_conclude h hprepared hbefore _ _ _

mutual

theorem mirrors_runStep {step last : Step} (h : step.Alike last) :
    Mirrors (Option.Rel Report.Alike) (runStep defaults step) (runStep defaults last) := by
  match step, h with
  | .run request before, .run hrequest hbefore =>
    rw [runStep, runStep]
    refine .bind (.deeper _ (.bind_get (fun world => ?_) fun _ _ => rfl)) fun halike =>
      .pure (.some halike)
    exact (mirrors_runSteps hbefore).bind fun hreports => mirrors_runAfter hrequest hreports _
  | .repeated id, .repeated _ | .unknown id, .unknown _ =>
    rw [runStep]
    exact (Steady.log _ _).mirrors.bind_eq fun _ => .pure .none
termination_by structural step

theorem mirrors_runSteps {steps lasts : List Step} (h : Forall₂ Step.Alike steps lasts) :
    Mirrors (Forall₂ Report.Alike) (runSteps defaults steps) (runSteps defaults lasts) := by
  match steps, h with
  | [], .nil =>
    rw [runSteps]
    exact .pure .nil
  | step :: rest, .cons hstep hrest =>
    rw [runSteps, runSteps]
    refine (mirrors_runStep hstep).bind fun hreport => ?_
    refine (mirrors_runSteps hrest).bind fun hreports => ?_
    refine .pure ?_
    cases hreport with
    | none => exact hreports
    | some halike => exact .cons halike hreports
termination_by structural steps

end

/-- Alike requests run alike. -/
theorem mirrors_run {requests others : List Request} (hrequests : Forall₂ Alike requests others)
    (h : request.Alike other) :
    Mirrors Report.Alike (request.run requests defaults) (other.run others defaults) := by
  unfold run
  refine .bind_get (fun world => ?_) fun _ _ => rfl
  refine (mirrors_runSteps (Plan.rel_before hrequests h)).bind fun hreports => ?_
  exact mirrors_runAfter h hreports _

end Request

end RequestScript
