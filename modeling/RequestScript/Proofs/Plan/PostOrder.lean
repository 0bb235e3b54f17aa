import RequestScript.Run.Plan
import RequestScript.Proofs.Script.Lookup

/-!
# The order of a plan

References are followed depth first, and a request comes after the requests that it refers to.
`PostOrder` describes that order by rules, without the steps of a plan; the steps run through
exactly this order. What an order holds, and each of its requests only once, follows by
induction on the rules.
-/

namespace RequestScript

mutual

/-- The requests that a step runs, in the order in which they are sent. -/
def Step.requests : Step → List Request
  | .run request before => Step.allRequests before ++ [request]
  | .repeated _ | .unknown _ => []
termination_by structural step => step

/-- The requests that steps run, in the order in which they are sent. -/
def Step.allRequests : List Step → List Request
  | [] => []
  | step :: rest => step.requests ++ Step.allRequests rest
termination_by structural steps => steps

end

namespace Plan

variable {requests order : List Request} {visited ids after : List String}

/-- The depth-first post-order of references: with some identifiers visited, following a list of
references reaches an order of requests, and more identifiers are visited after it. -/
inductive PostOrder (requests : List Request) :
    List String → List String → List Request → List String → Prop
  /-- No reference is left. -/
  | nil (visited : List String) : PostOrder requests visited [] [] visited
  /-- A visited identifier is skipped. -/
  | repeated {visited rest after : List String} {order : List Request} {id : String} :
      id ∈ visited → PostOrder requests visited rest order after →
      PostOrder requests visited (id :: rest) order after
  /-- An identifier of no request is skipped. -/
  | unknown {visited rest after : List String} {order : List Request} {id : String} :
      id ∉ visited → Request.find? requests id = none →
      PostOrder requests visited rest order after →
      PostOrder requests visited (id :: rest) order after
  /-- The first request with the identifier comes after its own references. -/
  | found {visited between rest after : List String} {before order : List Request}
      {id : String} {request : Request} :
      id ∉ visited → Request.find? requests id = some request →
      PostOrder requests (id :: visited) request.pre before between →
      PostOrder requests between rest order after →
      PostOrder requests visited (id :: rest) (before ++ request :: order) after

/-- The order in which a request and the ones that it refers to are sent: first its references
in post-order, with its own identifier visited from the start, and then the request itself. -/
def IsOrder (requests : List Request) (request : Request) (order : List Request) : Prop :=
  ∃ nested visited, PostOrder requests request.id.toList request.pre nested visited ∧
    order = nested ++ [request]

namespace PostOrder

/-- The rules leave no choice: references have one order. -/
theorem unique {other : List Request} {afterOther : List String}
    (h : PostOrder requests visited ids order after)
    (hother : PostOrder requests visited ids other afterOther) :
    order = other ∧ after = afterOther := by
  induction h generalizing other afterOther with
  | nil => cases hother; exact ⟨rfl, rfl⟩
  | repeated hid _ ih =>
    cases hother with
    | repeated _ hrest => exact ih hrest
    | unknown hnew => exact absurd hid hnew
    | found hnew => exact absurd hid hnew
  | unknown hnew hfind _ ih =>
    cases hother with
    | repeated hid => exact absurd hid hnew
    | unknown _ _ hrest => exact ih hrest
    | found _ hsome => simp [hfind] at hsome
  | found hnew hfind _ _ ih ihrest =>
    cases hother with
    | repeated hid => exact absurd hid hnew
    | unknown _ hnone => simp [hfind] at hnone
    | found _ hsome hbefore hrest =>
      rw [hfind] at hsome
      cases hsome
      obtain ⟨rfl, rfl⟩ := ih hbefore
      obtain ⟨rfl, rfl⟩ := ihrest hrest
      exact ⟨rfl, rfl⟩

/-- Among no requests there is nothing to send. -/
theorem eq_nil_of_no_requests (h : PostOrder requests visited ids order after)
    (hnone : requests = []) : order = [] := by
  induction h with
  | nil => rfl
  | repeated _ _ ih => exact ih
  | unknown _ _ _ ih => exact ih
  | found _ hfind => simp [hnone, Request.find?] at hfind

/-- Visited afterwards are the identifiers visited before, and those of the order. -/
theorem mem_after_iff (h : PostOrder requests visited ids order after) (id : String) :
    id ∈ after ↔ id ∈ visited ∨ ∃ request ∈ order, request.id = some id := by
  induction h with
  | nil => simp
  | repeated _ _ ih => exact ih
  | unknown _ _ _ ih => exact ih
  | @found visited between rest after before order own request hnew hfind _ _ ih ihrest =>
    have hown := Request.id_of_find? hfind
    rw [ihrest, ih, List.mem_cons]
    constructor
    · rintro (((rfl | hvisited) | ⟨x, hx, hxid⟩) | ⟨x, hx, hxid⟩)
      · exact .inr ⟨request, by simp, hown⟩
      · exact .inl hvisited
      · exact .inr ⟨x, by simp [hx], hxid⟩
      · exact .inr ⟨x, by simp [hx], hxid⟩
    · rintro (hvisited | ⟨x, hx, hxid⟩)
      · exact .inl (.inl (.inr hvisited))
      · rcases List.mem_append.mp hx with hx | hx
        · exact .inl (.inr ⟨x, hx, hxid⟩)
        · rcases List.mem_cons.mp hx with rfl | hx
          · rw [hown, Option.some.injEq] at hxid
            exact .inl (.inl (.inl hxid.symm))
          · exact .inr ⟨x, hx, hxid⟩

/-- Each request of the order is the first one with its identifier. -/
theorem exists_find? (h : PostOrder requests visited ids order after) :
    ∀ request ∈ order, ∃ id, Request.find? requests id = some request := by
  induction h with
  | nil => simp
  | repeated _ _ ih => exact ih
  | unknown _ _ _ ih => exact ih
  | @found _ _ _ _ _ _ id request _ hfind _ _ ih ihrest =>
    intro x hx
    rcases List.mem_append.mp hx with hx | hx
    · exact ih x hx
    · rcases List.mem_cons.mp hx with rfl | hx
      · exact ⟨id, hfind⟩
      · exact ihrest x hx

/-- A request of the order has an identifier that had not been visited. -/
theorem id_not_visited (h : PostOrder requests visited ids order after) :
    ∀ request ∈ order, ∀ id ∈ visited, request.id ≠ some id := by
  induction h with
  | nil => simp
  | repeated _ _ ih => exact ih
  | unknown _ _ _ ih => exact ih
  | @found _ _ _ _ _ _ own request hnew hfind hbefore _ ih ihrest =>
    intro x hx id hid
    rcases List.mem_append.mp hx with hx | hx
    · exact ih x hx id (List.mem_cons_of_mem _ hid)
    · rcases List.mem_cons.mp hx with rfl | hx
      · rw [Request.id_of_find? hfind, ne_eq, Option.some.injEq]
        rintro rfl
        exact hnew hid
      · exact ihrest x hx id
          ((hbefore.mem_after_iff id).mpr (.inl (List.mem_cons_of_mem _ hid)))

/-- No identifier occurs twice in the order. -/
theorem nodup_ids (h : PostOrder requests visited ids order after) :
    (order.map (·.id)).Nodup := by
  induction h with
  | nil => simp
  | repeated _ _ ih => exact ih
  | unknown _ _ _ ih => exact ih
  | @found _ between _ _ before order own request hnew hfind hbefore hrest ih ihrest =>
    have hown := Request.id_of_find? hfind
    -- What comes after is not visited yet, so it differs from what was visited before it.
    have hlater : ∀ x ∈ order, ∀ id ∈ between, x.id ≠ some id := hrest.id_not_visited
    rw [List.map_append, List.map_cons, List.nodup_append, List.nodup_cons]
    refine ⟨ih, ⟨?_, ihrest⟩, ?_⟩
    · rintro hmem
      obtain ⟨x, hx, hxid⟩ := List.mem_map.mp hmem
      exact hlater x hx own ((hbefore.mem_after_iff own).mpr (.inl (by simp))) (by rw [hxid, hown])
    · intro a ha b hb hab
      obtain ⟨x, hx, rfl⟩ := List.mem_map.mp ha
      obtain ⟨id, hid⟩ := hbefore.exists_find? x hx
      have hxid := Request.id_of_find? hid
      rcases List.mem_cons.mp hb with rfl | hb
      · exact hbefore.id_not_visited x hx own (by simp) (by rw [hab, hown])
      · obtain ⟨y, hy, rfl⟩ := List.mem_map.mp hb
        exact hlater y hy id ((hbefore.mem_after_iff id).mpr (.inr ⟨x, hx, hxid⟩))
          (by rw [← hab, hxid])

/-- Every reference to a request has been visited afterwards. -/
theorem mem_after_of_reference (h : PostOrder requests visited ids order after) :
    ∀ id ∈ ids, (Request.find? requests id).isSome → id ∈ after := by
  induction h with
  | nil => simp
  | repeated hid hrest ih =>
    intro next hnext hknown
    rcases List.mem_cons.mp hnext with rfl | hnext
    · exact (hrest.mem_after_iff _).mpr (.inl hid)
    · exact ih next hnext hknown
  | unknown _ hfind _ ih =>
    intro next hnext hknown
    rcases List.mem_cons.mp hnext with rfl | hnext
    · simp [hfind] at hknown
    · exact ih next hnext hknown
  | found _ _ hbefore hrest _ ihrest =>
    intro next hnext hknown
    rcases List.mem_cons.mp hnext with rfl | hnext
    · have hbetween := (hbefore.mem_after_iff next).mpr (.inl (by simp))
      exact (hrest.mem_after_iff next).mpr (.inl hbetween)
    · exact ihrest next hnext hknown

/-- Every reference of a request of the order to a request has been visited afterwards. -/
theorem mem_after_of_pre (h : PostOrder requests visited ids order after) :
    ∀ request ∈ order, ∀ id ∈ request.pre, (Request.find? requests id).isSome → id ∈ after := by
  induction h with
  | nil => simp
  | repeated _ _ ih => exact ih
  | unknown _ _ _ ih => exact ih
  | found _ _ hbefore hrest ih ihrest =>
    intro x hx id hid hknown
    rcases List.mem_append.mp hx with hx | hx
    · exact (hrest.mem_after_iff id).mpr (.inl (ih x hx id hid hknown))
    · rcases List.mem_cons.mp hx with rfl | hx
      · have hbetween := hbefore.mem_after_of_reference id hid hknown
        exact (hrest.mem_after_iff id).mpr (.inl hbetween)
      · exact ihrest x hx id hid hknown

/-- The order stays within every set of identifiers that holds the references to requests that
have not been visited, and with an identifier those of the first request that has it. -/
theorem mem_of_closed {holds : String → Prop} (h : PostOrder requests visited ids order after)
    (hstart : ∀ id ∈ ids, id ∉ visited → (Request.find? requests id).isSome → holds id)
    (hclosed : ∀ id request, holds id → Request.find? requests id = some request →
      ∀ next ∈ request.pre, next ∉ visited → (Request.find? requests next).isSome → holds next) :
    ∀ request ∈ order, ∀ id, request.id = some id → holds id := by
  induction h with
  | nil => simp
  | repeated _ _ ih => exact ih (fun id hid => hstart id (List.mem_cons_of_mem _ hid)) hclosed
  | unknown _ _ _ ih => exact ih (fun id hid => hstart id (List.mem_cons_of_mem _ hid)) hclosed
  | @found visited between rest _ _ _ own request hnew hfind hbefore _ ih ihrest =>
    have hown : holds own := hstart own (by simp) hnew (by simp [hfind])
    have hsmaller : ∀ id, id ∉ between → id ∉ visited := fun id hid hvisited =>
      hid ((hbefore.mem_after_iff id).mpr (.inl (List.mem_cons_of_mem _ hvisited)))
    intro x hx id hxid
    rcases List.mem_append.mp hx with hx | hx
    · refine ih (fun next hnext hunvisited => hclosed own request hown hfind next hnext ?_)
        (fun id request hid hsome next hnext hunvisited =>
          hclosed id request hid hsome next hnext ?_) x hx id hxid
      · exact fun hvisited => hunvisited (List.mem_cons_of_mem _ hvisited)
      · exact fun hvisited => hunvisited (List.mem_cons_of_mem _ hvisited)
    · rcases List.mem_cons.mp hx with rfl | hx
      · rw [Request.id_of_find? hfind, Option.some.injEq] at hxid
        rwa [← hxid]
      · exact ihrest
          (fun next hnext hunvisited =>
            hstart next (List.mem_cons_of_mem _ hnext) (hsmaller next hunvisited))
          (fun id request hid hsome next hnext hunvisited =>
            hclosed id request hid hsome next hnext (hsmaller next hunvisited)) x hx id hxid

end PostOrder

/-- The steps for references run through the post-order of the references. -/
theorem postOrder_steps (requests : List Request) (visited ids : List String) :
    PostOrder requests visited ids (Step.allRequests (steps requests visited ids).1)
      (steps requests visited ids).2.val := by
  induction visited, ids using steps.induct requests with
  | case1 visited =>
    rw [steps]
    exact .nil visited
  | case2 visited id rest hid more after hmore ih =>
    rw [steps, dif_pos hid]
    exact .repeated hid ih
  | case3 visited id rest hid hfind more after hmore ih =>
    rw [steps, dif_neg hid]
    split
    · exact .unknown hid hfind ih
    · next found hfound => simp [hfind] at hfound
  | case4 visited id rest hid request hfind _ before inner hbefore _ more after hmore ih ihrest =>
    rw [steps, dif_neg hid]
    split
    · next hfound => simp [hfind] at hfound
    · next found hfound =>
      obtain rfl : request = found := by simpa [hfind] using hfound
      obtain rfl : inner = (steps requests (id :: visited) request.pre).2 := by rw [hbefore]
      simpa [Step.allRequests, Step.requests] using PostOrder.found hid hfind ih ihrest

/-- The steps before a request run through its references in post-order, whether there are
requests to refer to or not. -/
theorem postOrder_before (requests : List Request) (request : Request) :
    ∃ visited, PostOrder requests request.id.toList request.pre
      (Step.allRequests (before requests request)) visited := by
  have h := postOrder_steps requests request.id.toList request.pre
  rw [before]
  split
  · next hnone =>
    rw [h.eq_nil_of_no_requests (List.isEmpty_iff.mp hnone)] at h
    exact ⟨_, h⟩
  · exact ⟨_, h⟩

/-- A request has exactly one order: the requests of its steps, and then itself. -/
theorem isOrder_iff {requests order : List Request} {request : Request} :
    IsOrder requests request order ↔
      order = Step.allRequests (before requests request) ++ [request] := by
  obtain ⟨visited, h⟩ := postOrder_before requests request
  constructor
  · rintro ⟨nested, _, hnested, rfl⟩
    rw [(hnested.unique h).1]
  · rintro rfl
    exact ⟨_, visited, h, rfl⟩

end Plan

end RequestScript
