import RequestScript.Proofs.Run.Attempts

/-!
# Names of headers

Replacing the placeholders in the headers of a request leaves their names as they are, so that a
report on a run has the header names of its request.
-/

namespace RequestScript

open RequestScript.Action

namespace Request

variable {request : Request} {world after : World}

theorem names_resolveHeaders {headers : Headers}
    (h : request.resolveHeaders.on world = (.ok headers, after)) :
    Table.names headers = Table.names request.headers := by
  unfold resolveHeaders at h
  generalize request.headers = table at h ⊢
  induction table generalizing headers world with
  | nil =>
    cases h
    rfl
  | cons entry rest ih =>
    rw [List.mapM_cons] at h
    obtain ⟨first, between, hfirst, hmore⟩ := on_bind_ok h
    obtain ⟨others, last, hothers, hdone⟩ := on_bind_ok hmore
    obtain ⟨value, _, _, hpair⟩ := on_bind_ok hfirst
    cases hpair
    cases hdone
    exact congrArg (entry.1 :: ·) (ih hothers)

/-- A report has the header names of its request. -/
theorem names_requestHeaders_of_run {requests : List Request} {defaults : Defaults}
    {report : Report} (h : (request.run requests defaults).on world = (.ok report, after)) :
    Table.names report.requestHeaders = Table.names request.headers := by
  obtain ⟨_, _, _, hsteps⟩ := on_bind_ok h
  obtain ⟨_, _, _, hrun⟩ := on_bind_ok hsteps
  obtain ⟨prepared, _, hprepare, hdispatch⟩ := on_bind_ok hrun
  obtain ⟨_, _, _, hattempt⟩ := on_bind_ok hdispatch
  obtain ⟨_, _, _, hconclude⟩ := on_bind_ok hattempt
  obtain ⟨_, _, _, hheaders⟩ := on_bind_ok hprepare
  obtain ⟨headers, _, hresolve, hpayload⟩ := on_bind_ok hheaders
  obtain ⟨_, _, _, hprepared⟩ := on_bind_ok hpayload
  cases hprepared
  rw [(fields_of_conclude hconclude).1]
  exact names_resolveHeaders hresolve

end Request

end RequestScript
