import RequestScript.Proofs.Plan.PostOrder
import Mathlib.Logic.Relation

/-!
# What an order owes to its references

Two facts about the post-order of a request's references. The identifiers in it are the least set
that is closed under references, whatever the references are. Where no circle of references can
be reached, each request comes after everything that it refers to: an identifier that is skipped
as visited then belongs to a request that is finished, not to one that still waits.
-/

namespace RequestScript.Plan

open Relation

variable {requests order : List Request} {request : Request} {visited ids after : List String}

/-- The identifiers that a request needs: its references to requests, and those of the first
requests with an identifier that it needs. Its own identifier is none of them. -/
inductive Needs (requests : List Request) (request : Request) : String → Prop
  /-- A reference of the request. -/
  | direct {id : String} : id ∈ request.pre → (Request.find? requests id).isSome →
      request.id ≠ some id → Needs requests request id
  /-- A reference of a request that is needed. -/
  | further {id next : String} {other : Request} : Needs requests request id →
      Request.find? requests id = some other → next ∈ other.pre →
      (Request.find? requests next).isSome → request.id ≠ some next →
      Needs requests request next

/-- The identifiers in the post-order of a request's references are those that it needs. -/
theorem PostOrder.mem_ids_iff_needs
    (h : PostOrder requests request.id.toList request.pre order after) (id : String) :
    (∃ x ∈ order, x.id = some id) ↔ Needs requests request id := by
  have hother : ∀ id, id ∉ request.id.toList ↔ request.id ≠ some id := by simp
  constructor
  · rintro ⟨x, hx, hxid⟩
    refine h.mem_of_closed (fun id hid hnew hknown => .direct hid hknown ((hother id).mp hnew))
      (fun id other hneeds hfind next hnext hnew hknown => ?_) x hx id hxid
    exact .further hneeds hfind hnext hknown ((hother next).mp hnew)
  · intro hneeds
    -- What has been visited and is not the request's own identifier is in the order.
    have hdone : ∀ id, id ∈ after → request.id ≠ some id → ∃ x ∈ order, x.id = some id :=
      fun id hid hne => ((h.mem_after_iff id).mp hid).resolve_left ((hother id).mpr hne)
    induction hneeds with
    | direct hid hknown hne => exact hdone _ (h.mem_after_of_reference _ hid hknown) hne
    | further _ hfind hnext hknown hne ih =>
      obtain ⟨x, hx, hxid⟩ := ih
      obtain ⟨own, hown⟩ := h.exists_find? x hx
      have hsame := Request.id_of_find? hown
      rw [hxid, Option.some.injEq] at hsame
      rw [← hsame, hfind, Option.some.injEq] at hown
      rw [hown] at hnext
      exact hdone _ (h.mem_after_of_pre x hx _ hnext hknown) hne

/-- A request refers to the first request with one of its references. -/
def Refers (requests : List Request) (request other : Request) : Prop :=
  ∃ id ∈ request.pre, Request.find? requests id = some other

/-- No circle of references can be reached from a request. -/
def NoCircle (requests : List Request) (request : Request) : Prop :=
  ∀ other, ReflTransGen (Refers requests) request other →
    ¬ TransGen (Refers requests) other other

/-- In a list of requests each one comes after all the requests that it refers to, which may also
stand among those that are done already. -/
def InOrder (requests : List Request) (done : List Request) : List Request → Prop
  | [] => True
  | request :: rest =>
    (∀ id ∈ request.pre, (Request.find? requests id).isSome → ∃ x ∈ done, x.id = some id) ∧
      InOrder requests (done ++ [request]) rest

theorem inOrder_append {done first second : List Request} :
    InOrder requests done (first ++ second) ↔
      InOrder requests done first ∧ InOrder requests (done ++ first) second := by
  induction first generalizing done with
  | nil => simp [InOrder]
  | cons x rest ih => simp [InOrder, ih, and_assoc]

/-- The state of a search: what has been visited is done, or it waits and none of the given
references leads back to it. -/
structure Waiting (requests : List Request) (visited ids : List String)
    (done waiting : List Request) : Prop where
  /-- A visited identifier belongs to a request that is done or that waits. -/
  visited : ∀ id ∈ visited,
    (∃ x ∈ done, x.id = some id) ∨ ∃ x ∈ waiting, Request.find? requests id = some x
  /-- No reference leads to a request that waits. -/
  apart : ∀ id ∈ ids, ∀ x, Request.find? requests id = some x →
    ∀ y ∈ waiting, ¬ ReflTransGen (Refers requests) x y
  /-- No reference leads to a circle. -/
  noCircle : ∀ id ∈ ids, ∀ x, Request.find? requests id = some x → NoCircle requests x

namespace Waiting

variable {done waiting : List Request} {rest : List String} {id : String}

/-- Fewer references lead to fewer requests. -/
theorem tail (h : Waiting requests visited (id :: rest) done waiting) :
    Waiting requests visited rest done waiting :=
  ⟨h.visited, fun next hnext => h.apart next (List.mem_cons_of_mem _ hnext),
    fun next hnext => h.noCircle next (List.mem_cons_of_mem _ hnext)⟩

/-- While the references of a request are followed, that request waits as well. -/
theorem enter (h : Waiting requests visited (id :: rest) done waiting)
    (hfind : Request.find? requests id = some request) :
    Waiting requests (id :: visited) request.pre done (request :: waiting) := by
  refine ⟨?_, ?_, ?_⟩
  · intro own hown
    rcases List.mem_cons.mp hown with rfl | hown
    · exact .inr ⟨request, by simp, hfind⟩
    · exact (h.visited own hown).imp_right fun ⟨x, hx, hxid⟩ => ⟨x, by simp [hx], hxid⟩
  · intro next hnext x hx y hy hreach
    have hrefers : Refers requests request x := ⟨next, hnext, hx⟩
    rcases List.mem_cons.mp hy with rfl | hy
    · exact h.noCircle id (by simp) y hfind y .refl (.head' hrefers hreach)
    · exact h.apart id (by simp) request hfind y hy (.head hrefers hreach)
  · intro next hnext x hx other hreach
    have hrefers : Refers requests request x := ⟨next, hnext, hx⟩
    exact h.noCircle id (by simp) request hfind other (.head hrefers hreach)

/-- After a request, it and what it refers to are done. -/
theorem leave {between : List String} {before : List Request}
    (h : Waiting requests visited (id :: rest) done waiting)
    (hfind : Request.find? requests id = some request)
    (hbefore : PostOrder requests (id :: visited) request.pre before between) :
    Waiting requests between rest (done ++ (before ++ [request])) waiting := by
  refine ⟨?_, h.tail.apart, h.tail.noCircle⟩
  intro own hown
  rcases (hbefore.mem_after_iff own).mp hown with hown | ⟨x, hx, hxid⟩
  · rcases List.mem_cons.mp hown with rfl | hown
    · exact .inl ⟨request, by simp, Request.id_of_find? hfind⟩
    · exact (h.visited own hown).imp_left fun ⟨x, hx, hxid⟩ => ⟨x, by simp [hx], hxid⟩
  · exact .inl ⟨x, by simp [hx], hxid⟩

end Waiting

/-- From such a state on, each request comes after the ones that it refers to, and afterwards all
references to requests are done. -/
theorem PostOrder.inOrder {done waiting : List Request}
    (h : PostOrder requests visited ids order after)
    (hstate : Waiting requests visited ids done waiting) :
    InOrder requests done order ∧
      ∀ id ∈ ids, (Request.find? requests id).isSome → ∃ x ∈ done ++ order, x.id = some id := by
  induction h generalizing done waiting with
  | nil => exact ⟨trivial, by simp⟩
  | @repeated _ _ _ _ own hid _ ih =>
    obtain ⟨horder, hdone⟩ := ih hstate.tail
    refine ⟨horder, fun next hnext hknown => ?_⟩
    rcases List.mem_cons.mp hnext with rfl | hnext
    · rcases hstate.visited next hid with ⟨x, hx, hxid⟩ | ⟨x, hx, hfind⟩
      · exact ⟨x, by simp [hx], hxid⟩
      · exact absurd .refl (hstate.apart next (by simp) x hfind x hx)
    · exact hdone next hnext hknown
  | unknown _ hfind _ ih =>
    obtain ⟨horder, hdone⟩ := ih hstate.tail
    refine ⟨horder, fun next hnext hknown => ?_⟩
    rcases List.mem_cons.mp hnext with rfl | hnext
    · simp [hfind] at hknown
    · exact hdone next hnext hknown
  | @found _ _ _ _ before order own request _ hfind hbefore _ ih ihrest =>
    obtain ⟨hfirst, hpre⟩ := ih (hstate.enter hfind)
    obtain ⟨hrest, hdone⟩ := ihrest (hstate.leave hfind hbefore)
    have hsplit : before ++ request :: order = (before ++ [request]) ++ order := by simp
    refine ⟨?_, fun next hnext hknown => ?_⟩
    · rw [hsplit, inOrder_append, inOrder_append]
      exact ⟨⟨hfirst, hpre, trivial⟩, hrest⟩
    · rcases List.mem_cons.mp hnext with rfl | hnext
      · exact ⟨request, by simp, Request.id_of_find? hfind⟩
      · simpa [List.append_assoc] using hdone next hnext hknown

/-- What `InOrder` says about one request of a list. -/
theorem InOrder.exists_mem {done earlier later : List Request}
    (h : InOrder requests done (earlier ++ request :: later)) :
    ∀ id ∈ request.pre, (Request.find? requests id).isSome →
      ∃ x ∈ done ++ earlier, x.id = some id :=
  (inOrder_append.mp h).2.1

/-- Measured by a number that gets smaller from a request to the ones that it refers to, no
references go round in a circle. -/
theorem noCircle_of_lt (rank : Request → Nat) (hmem : request ∈ requests)
    (hlt : ∀ x ∈ requests, ∀ y, Refers requests x y → rank y < rank x) :
    NoCircle requests request := by
  intro other hreach hcircle
  have hother : other ∈ requests := by
    rcases hreach.cases_tail with rfl | ⟨_, _, id, _, hfind⟩
    · exact hmem
    · exact Request.mem_of_find? hfind
  have hless : ∀ y, TransGen (Refers requests) other y → y ∈ requests ∧ rank y < rank other := by
    intro y hy
    induction hy with
    | single hrefers =>
      have ⟨_, _, hfind⟩ := hrefers
      exact ⟨Request.mem_of_find? hfind, hlt other hother _ hrefers⟩
    | tail _ hrefers ih =>
      have ⟨_, _, hfind⟩ := hrefers
      exact ⟨Request.mem_of_find? hfind, Nat.lt_trans (hlt _ ih.1 _ hrefers) ih.2⟩
  exact Nat.lt_irrefl _ (hless other hcircle).2

namespace IsOrder

/-- An order has a request for every identifier at most once. -/
theorem nodup_ids (h : IsOrder requests request order) : (order.map (·.id)).Nodup := by
  obtain ⟨nested, visited, hnested, rfl⟩ := h
  rw [List.map_append, List.nodup_append]
  refine ⟨hnested.nodup_ids, by simp, ?_⟩
  intro a ha b hb hab
  obtain ⟨x, hx, rfl⟩ := List.mem_map.mp ha
  obtain rfl : b = request.id := by simpa using hb
  obtain ⟨id, hfind⟩ := hnested.exists_find? x hx
  have hid := Request.id_of_find? hfind
  exact hnested.id_not_visited x hx id (by rw [← hab, hid]; simp) hid

/-- An order holds no requests but the one that it is for and those that are referred to. -/
theorem mem_requests (h : IsOrder requests request order) (hmem : request ∈ requests) :
    ∀ x ∈ order, x ∈ requests := by
  obtain ⟨nested, visited, hnested, rfl⟩ := h
  intro x hx
  rcases List.mem_append.mp hx with hx | hx
  · obtain ⟨id, hfind⟩ := hnested.exists_find? x hx
    exact Request.mem_of_find? hfind
  · rwa [List.mem_singleton.mp hx]

/-- Without circles every request of an order comes after the ones that it refers to. -/
theorem inOrder (h : IsOrder requests request order)
    (hself : ∀ id, request.id = some id → Request.find? requests id = some request)
    (hcircle : NoCircle requests request) : InOrder requests [] order := by
  obtain ⟨nested, visited, hnested, rfl⟩ := h
  have hstart : Waiting requests request.id.toList request.pre [] [request] := by
    refine ⟨?_, ?_, ?_⟩
    · intro id hid
      exact .inr ⟨request, by simp, hself id (by simpa using hid)⟩
    · intro id hid x hfind y hy hreach
      obtain rfl : y = request := by simpa using hy
      exact hcircle y .refl (.head' ⟨id, hid, hfind⟩ hreach)
    · intro id hid x hfind other hreach
      exact hcircle other (.head ⟨id, hid, hfind⟩ hreach)
  obtain ⟨horder, hdone⟩ := hnested.inOrder hstart
  exact inOrder_append.mpr ⟨horder, by simpa using hdone, trivial⟩

end IsOrder

end RequestScript.Plan
