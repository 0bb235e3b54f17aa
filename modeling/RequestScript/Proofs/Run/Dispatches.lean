import Mathlib
import RequestScript.Run
import RequestScript.Proofs.Plan.References
import RequestScript.Proofs.World.Action

/-!
# The dispatches of a run

A run that no fault stops is a sequence of dispatches: requests are made ready and sent, one
after the other, and nothing happens between them but that messages are logged. The requests are
the ones of the plan. So the facts about the order of a plan become facts about runs: what is
dispatched before a request is what it needs, each request once, and without circles
everything that a request refers to is done before the request is made ready.
-/

namespace RequestScript

open Relation

variable {defaults : Defaults} {world after : World}

/-- Requests are dispatched in order, from one world to another: each one is made ready, sent,
evaluated and reported on, and no fault stops it. Room aside, a request is dispatched in
the world that the one before it has left behind, but for messages that are logged. -/
inductive Dispatches (defaults : Defaults) : List Request → World → World → Prop
  /-- Nothing is left to dispatch. -/
  | nil (world : World) (room : Nat) :
      Dispatches defaults [] world (world.moved room world.events)
  /-- A message is logged. -/
  | logged {requests : List Request} {world after : World} (source message : String) :
      Dispatches defaults requests
        (world.moved world.room (.logged source message :: world.events)) after →
      Dispatches defaults requests world after
  /-- A request is dispatched. -/
  | cons {request : Request} {rest : List Request} {world between after : World} {room : Nat}
      {start : Int} {reports : List Report} {report : Report} :
      (request.runAfter defaults start reports).on (world.moved room world.events) =
        (.ok report, between) →
      Dispatches defaults rest between after →
      Dispatches defaults (request :: rest) world after

namespace Dispatches

/-- The room in the world before makes no difference. -/
theorem moved_left {requests : List Request} (h : Dispatches defaults requests world after)
    (room : Nat) : Dispatches defaults requests (world.moved room world.events) after := by
  induction h generalizing room with
  | nil world other => exact .nil (world.moved room world.events) other
  | logged source message _ ih => exact .logged source message (ih room)
  | cons hrun hrest => exact .cons hrun hrest

/-- The room in the world after makes no difference. -/
theorem moved_right {requests : List Request} (h : Dispatches defaults requests world after)
    (room : Nat) : Dispatches defaults requests world (after.moved room after.events) := by
  induction h with
  | nil world _ => exact .nil world room
  | logged source message _ ih => exact .logged source message ih
  | cons hrun _ ih => exact .cons hrun ih

theorem append {first second : List Request} {between : World}
    (hfirst : Dispatches defaults first world between)
    (hsecond : Dispatches defaults second between after) :
    Dispatches defaults (first ++ second) world after := by
  induction hfirst with
  | nil world room => exact hsecond.moved_left world.room
  | logged source message _ ih => exact .logged source message (ih hsecond)
  | cons hrun _ ih => exact .cons hrun (ih hsecond)

/-- Wherever a sequence of dispatches is cut, there is a world between its parts. -/
theorem exists_between {first second : List Request}
    (h : Dispatches defaults (first ++ second) world after) :
    ∃ between, Dispatches defaults first world between ∧
      Dispatches defaults second between after := by
  generalize hall : first ++ second = requests at h
  induction h generalizing first with
  | nil world room =>
    obtain ⟨rfl, rfl⟩ := List.append_eq_nil_iff.mp hall
    exact ⟨world, .nil world world.room, .nil world room⟩
  | logged source message _ ih =>
    obtain ⟨between, hfirst, hsecond⟩ := ih hall
    exact ⟨between, .logged source message hfirst, hsecond⟩
  | @cons request rest world _ _ _ _ _ _ hrun hrest ih =>
    cases first with
    | nil =>
      obtain rfl : second = request :: rest := hall
      exact ⟨world, .nil world world.room, .cons hrun hrest⟩
    | cons x xs =>
      obtain ⟨rfl, htail⟩ := List.cons_eq_cons.mp hall
      obtain ⟨between, hfirst, hsecond⟩ := ih htail
      exact ⟨between, .cons hrun hfirst, hsecond⟩

end Dispatches

namespace Request

mutual

/-- A step that no fault stops dispatches its requests in post-order. -/
theorem dispatches_of_runStep (step : Step) {world after : World} {report : Option Report}
    (h : (runStep defaults step).on world = (.ok report, after)) :
    Dispatches defaults step.requests world after := by
  match step with
  | .run request before =>
    rw [runStep] at h
    obtain ⟨_, _, hdeeper, hreturn⟩ := Action.on_bind_ok h
    obtain ⟨-, rfl⟩ := Prod.mk.inj hreturn
    obtain ⟨inner, hinner, rfl⟩ := Action.on_deeper_ok hdeeper
    obtain ⟨_, _, hstart, hrest⟩ := Action.on_bind_ok hinner
    obtain ⟨-, rfl⟩ := Prod.mk.inj hstart
    obtain ⟨_, between, hbefore, hrun⟩ := Action.on_bind_ok hrest
    have hnested := (dispatches_of_runSteps before hbefore).moved_left world.room
    rw [Step.requests]
    exact (hnested.append (.cons hrun (.nil inner inner.room))).moved_right world.room
  | .repeated id | .unknown id =>
    rw [runStep] at h
    obtain ⟨_, _, hlog, hreturn⟩ := Action.on_bind_ok h
    obtain ⟨-, rfl⟩ := Prod.mk.inj hlog
    obtain ⟨-, rfl⟩ := Prod.mk.inj hreturn
    rw [Step.requests]
    exact .logged _ _ (.nil _ world.room)
termination_by structural step

/-- Steps that no fault stops dispatch their requests in post-order. -/
theorem dispatches_of_runSteps (steps : List Step) {world after : World} {reports : List Report}
    (h : (runSteps defaults steps).on world = (.ok reports, after)) :
    Dispatches defaults (Step.allRequests steps) world after := by
  match steps with
  | [] =>
    rw [runSteps] at h
    obtain ⟨-, rfl⟩ := Prod.mk.inj h
    exact .nil world world.room
  | step :: rest =>
    rw [runSteps] at h
    obtain ⟨_, between, hstep, htail⟩ := Action.on_bind_ok h
    obtain ⟨_, _, hrest, hreturn⟩ := Action.on_bind_ok htail
    obtain ⟨-, rfl⟩ := Prod.mk.inj hreturn
    rw [Step.allRequests]
    exact (dispatches_of_runStep step hstep).append (dispatches_of_runSteps rest hrest)
termination_by structural steps

end

/-- A run that no fault stops dispatches the requests of its order. -/
theorem dispatches_of_run {request : Request} {requests order : List Request} {report : Report}
    (h : (request.run requests defaults).on world = (.ok report, after))
    (horder : Plan.IsOrder requests request order) : Dispatches defaults order world after := by
  unfold run at h
  obtain ⟨_, _, hstart, hrest⟩ := Action.on_bind_ok h
  obtain ⟨-, rfl⟩ := Prod.mk.inj hstart
  obtain ⟨_, _, hbefore, hrun⟩ := Action.on_bind_ok hrest
  rw [Plan.isOrder_iff.mp horder]
  exact (dispatches_of_runSteps _ hbefore).append (.cons hrun (.nil after after.room))

/-- **What a run dispatches.** A run that no fault stops dispatches the requests that are needed,
each of them once and found under its identifier, and after them the request itself, which is none
of them. -/
theorem run_dispatches_needed_once {request : Request} {requests : List Request} {report : Report}
    (hrun : (request.run requests defaults).on world = (.ok report, after)) :
    ∃ (ids : List String) (nested : List Request),
      nested.map some = ids.map (find? requests) ∧ ids.Nodup ∧
      (∀ id, id ∈ ids ↔ Plan.Needs requests request id) ∧ request ∉ nested ∧
      Dispatches defaults (nested ++ [request]) world after := by
  obtain ⟨visited, hnested⟩ := Plan.postOrder_before requests request
  have horder : Plan.IsOrder requests request _ := ⟨_, visited, hnested, rfl⟩
  generalize Step.allRequests (Plan.before requests request) = nested at hnested horder
  obtain ⟨ids, hfound, hids⟩ := exists_ids_of_find? hnested.exists_find?
  have hmem : ∀ id, id ∈ ids ↔ ∃ x ∈ nested, x.id = some id := by
    intro id
    rw [← List.mem_map, hids]
    simp
  refine ⟨ids, nested, hfound, ?_, ?_, ?_, dispatches_of_run hrun horder⟩
  · have hnodup := hnested.nodup_ids
    rw [hids] at hnodup
    exact List.Pairwise.of_map some (fun _ _ hne heq => hne (congrArg some heq)) hnodup
  · intro id
    rw [hmem, hnested.mem_ids_iff_needs]
  · intro hself
    obtain ⟨id, hfind⟩ := hnested.exists_find? request hself
    have hid := id_of_find? hfind
    exact hnested.id_not_visited request hself id (by simp [hid]) hid

/-- A request that refers to itself and to one that refers back to it. -/
theorem run_dispatches_needed_once_in_circle :
    let other : Request := { url := "/b", id := some "b2C3d4", pre := ["a1B2c3", "b2C3d4"] }
    let request : Request := { url := "/a", id := some "a1B2c3", pre := ["a1B2c3", "b2C3d4"] }
    ∃ report after,
      (request.run [request, other] {}).on World.quiet = (.ok report, after) ∧
      ∃ (ids : List String) (nested : List Request),
        nested.map some = ids.map (find? [request, other]) ∧ ids.Nodup ∧
        (∀ id, id ∈ ids ↔ Plan.Needs [request, other] request id) ∧ request ∉ nested ∧
        Dispatches {} (nested ++ [request]) World.quiet after := by
  intro other request
  have hok : ((request.run [request, other] {}).on World.quiet).1.isOk = true := by cbv
  obtain ⟨report, after, hrun⟩ := Action.exists_on_of_isOk hok
  exact ⟨report, after, hrun, run_dispatches_needed_once hrun⟩

/-- **References are dispatched first.** Where every reference finds a request, no identifier
belongs to several requests and no circle of references can be reached, each dispatch of a run
comes after the dispatches of all the requests that it refers to: these end in the world in which
it starts, and none of them follows later. -/
theorem run_dispatches_references_first {request : Request} {requests : List Request}
    {report : Report} (hmissing : missingReferences requests = [])
    (hduplicates : duplicates requests = []) (hmem : request ∈ requests)
    (hcircle : Plan.NoCircle requests request)
    (hrun : (request.run requests defaults).on world = (.ok report, after)) :
    ∃ order, Plan.IsOrder requests request order ∧ Dispatches defaults order world after ∧
      ∀ earlier x later, order = earlier ++ x :: later →
        (∃ between, Dispatches defaults earlier world between ∧
          Dispatches defaults (x :: later) between after) ∧
        ∀ id ∈ x.pre, (∃ y ∈ earlier, find? requests id = some y) ∧
          ∀ y ∈ x :: later, y.id ≠ some id := by
  obtain ⟨visited, hnested⟩ := Plan.postOrder_before requests request
  have horder : Plan.IsOrder requests request _ := ⟨_, visited, hnested, rfl⟩
  have hself : ∀ id, request.id = some id → find? requests id = some request :=
    fun _ => find?_eq_of_duplicates hduplicates hmem
  have hdispatches := dispatches_of_run hrun horder
  refine ⟨_, horder, hdispatches, ?_⟩
  intro earlier x later hsplit
  have hx : x ∈ requests := horder.mem_requests hmem x (by rw [hsplit]; simp)
  rw [hsplit] at hdispatches
  refine ⟨hdispatches.exists_between, ?_⟩
  intro id hid
  have hknown := find?_isSome_of_missingReferences hmissing hx hid
  have hfirst := horder.inOrder hself hcircle
  rw [hsplit] at hfirst
  obtain ⟨y, hy, hyid⟩ := hfirst.exists_mem id hid hknown
  rw [List.nil_append] at hy
  have hyrequests : y ∈ requests := horder.mem_requests hmem y (by rw [hsplit]; simp [hy])
  refine ⟨⟨y, hy, find?_eq_of_duplicates hduplicates hyrequests hyid⟩, ?_⟩
  intro z hz hzid
  have hnodup := horder.nodup_ids
  rw [hsplit, List.map_append, List.nodup_append] at hnodup
  exact hnodup.2.2 _ (List.mem_map_of_mem hy) _ (List.mem_map_of_mem hz) (by rw [hyid, hzid])

/-- A request that refers to two others, of which one refers to the other. -/
theorem run_dispatches_references_first_in_diamond :
    let last : Request := { url := "/c", id := some "c3D4e5" }
    let other : Request := { url := "/b", id := some "b2C3d4", pre := ["c3D4e5"] }
    let request : Request := { url := "/a", id := some "a1B2c3", pre := ["c3D4e5", "b2C3d4"] }
    let requests := [request, other, last]
    missingReferences requests = [] ∧ duplicates requests = [] ∧ request ∈ requests ∧
      Plan.NoCircle requests request ∧
      ∃ report after, (request.run requests {}).on World.quiet = (.ok report, after) ∧
      ∃ order, Plan.IsOrder requests request order ∧ Dispatches {} order World.quiet after ∧
        ∀ earlier x later, order = earlier ++ x :: later →
          (∃ between, Dispatches {} earlier World.quiet between ∧
            Dispatches {} (x :: later) between after) ∧
          ∀ id ∈ x.pre, (∃ y ∈ earlier, find? requests id = some y) ∧
            ∀ y ∈ x :: later, y.id ≠ some id := by
  intro last other request requests
  have hmissing : missingReferences requests = [] := by decide
  have hduplicates : duplicates requests = [] := by decide
  have hmem : request ∈ requests := by simp [requests]
  have hfewer : ∀ x ∈ requests, ∀ id ∈ x.pre, ∀ y ∈ find? requests id,
      y.pre.length < x.pre.length := by decide
  have hcircle : Plan.NoCircle requests request :=
    Plan.noCircle_of_lt (·.pre.length) hmem fun x hx y ⟨id, hid, hfind⟩ =>
      hfewer x hx id hid y hfind
  have hok : ((request.run requests {}).on World.quiet).1.isOk = true := by cbv
  obtain ⟨report, after, hrun⟩ := Action.exists_on_of_isOk hok
  exact ⟨hmissing, hduplicates, hmem, hcircle, report, after, hrun,
    run_dispatches_references_first hmissing hduplicates hmem hcircle hrun⟩

end Request

end RequestScript
