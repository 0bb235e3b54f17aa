import RequestScript.Proofs.Script.Credentials
import RequestScript.Proofs.World.SteadyActions

/-!
# Actions that differ in credentials

The values of `authorization` headers are masked where events are compared. One action mirrors
another one if, whatever was noted before but for masked values, it ends well where the other one
does, notes the same but for masked values, and leaves the same world. A steady action mirrors
itself, and mirroring is closed under the ways in which actions are put together.
-/

namespace RequestScript

open List (Forall₂)

/-- A function that keeps a property commutes with the choice of the items that have it. -/
theorem map_filter_comm {α : Type} {f : α → α} {p : α → Bool} (h : ∀ x, p (f x) = p x)
    (xs : List α) : (xs.filter p).map f = (xs.map f).filter p := by
  have hcomp : p ∘ f = p := funext h
  rw [List.filter_map, hcomp]

namespace Headers

/-- A header without its value if it authorises. -/
def maskedEntry (entry : String × String) : String × String :=
  if IsCredential entry.1 then (entry.1, "") else entry

/-- The headers without the values that authorise. -/
def masked (headers : Headers) : Headers :=
  headers.map maskedEntry

theorem maskedEntry_fst (entry : String × String) : (maskedEntry entry).1 = entry.1 := by
  rw [maskedEntry, apply_ite Prod.fst, ite_self]

/-- Headers are left out by their names. -/
theorem masked_without (headers : Headers) (name : String) :
    masked (headers.without name) = (masked headers).without name := by
  refine map_filter_comm (fun entry => ?_) headers
  rw [maskedEntry_fst]

/-- What is left without the headers that authorise is not masked. -/
theorem without_masked (headers : Headers) :
    (masked headers).without "authorization" = headers.without "authorization" := by
  rw [← masked_without]
  refine (List.map_congr_left fun entry hentry => ?_).trans (List.map_id _)
  have hname : ¬IsCredential entry.1 := bne_iff_ne.mp (List.mem_filter.mp hentry).2
  exact if_neg hname

end Headers

/-- A call without the values that authorise. -/
def Call.masked (call : Call) : Call :=
  { call with headers := call.headers.map Headers.masked }

/-- An event without the values that authorise. -/
def Event.masked : Event → Event
  | .sent call => .sent call.masked
  | event => event

/-- Masked headers make masked calls. -/
theorem Call.masked_make {headers others : Headers} (h : headers.masked = others.masked)
    (method url : String) (payload : Payload) (timeout : Option Seconds) :
    (Call.make method url (some headers) payload timeout).masked =
      (Call.make method url (some others) payload timeout).masked := by
  cases payload <;>
    simp only [Call.make, Call.masked, Option.map_some, Option.getD_some, Headers.masked_without, h]

namespace Action

variable {α β γ δ : Type}

/-- Where the one action ends well, the other one ends well in a world that differs in events only,
and in these only in masked values, if they do so before. The results are related. -/
def Mirrors (r : α → β → Prop) (action : Action α) (other : Action β) : Prop :=
  ∀ (world : World) (events : List Event) (x : α) (after : World),
    events.map Event.masked = world.events.map Event.masked →
    action.on world = (.ok x, after) →
    ∃ y others, other.on (world.moved world.room events) = (.ok y, after.moved after.room others) ∧
      others.map Event.masked = after.events.map Event.masked ∧ r x y

/-- A steady action does not notice what is masked. -/
theorem Steady.mirrors {action : Action α} (h : Steady action) : Mirrors Eq action action := by
  intro world events x after hevents hrun
  obtain ⟨new, hnew, hroom, hmore⟩ := h world
  rw [hrun] at hnew hroom hmore
  rcases hmore world.room events (Nat.le_refl _) with hsame | ⟨hdeep, -⟩
  · refine ⟨x, new ++ events, ?_, ?_, rfl⟩
    · rw [hsame, hroom]
    · rw [hnew, List.map_append, List.map_append, hevents]
  · cases hdeep

namespace Mirrors

variable {r : α → β → Prop} {s : γ → δ → Prop}

theorem pure {x : α} {y : β} (h : r x y) :
    Mirrors r (Pure.pure x : Action α) (Pure.pure y : Action β) := by
  intro world events _ after hevents hrun
  obtain ⟨⟨⟩, rfl⟩ := Prod.mk.inj hrun
  exact ⟨y, events, rfl, hevents, h⟩

theorem bind {action : Action α} {other : Action β} {next : α → Action γ} {more : β → Action δ}
    (h : Mirrors r action other) (hnext : ∀ {x y}, r x y → Mirrors s (next x) (more y)) :
    Mirrors s (action >>= next) (other >>= more) := by
  intro world events z after hevents hrun
  obtain ⟨x, between, hx, hz⟩ := on_bind_ok hrun
  obtain ⟨y, others, hy, hothers, hxy⟩ := h _ _ _ _ hevents hx
  obtain ⟨w, lasts, hw, hlasts, hzw⟩ := hnext hxy _ _ _ _ hothers hz
  refine ⟨w, lasts, ?_, hlasts, hzw⟩
  rw [on_bind, hy]
  exact hw

/-- After the same result, or nothing but a note. -/
theorem bind_eq {action other : Action α} {next : α → Action γ} {more : α → Action δ}
    (h : Mirrors Eq action other) (hnext : ∀ x, Mirrors s (next x) (more x)) :
    Mirrors s (action >>= next) (other >>= more) :=
  h.bind fun {x _} hxy => hxy ▸ hnext x

/-- What is done next may depend on every part of the world but the events. -/
theorem bind_get {next : World → Action γ} {more : World → Action δ}
    (h : ∀ world, Mirrors s (next world) (more world))
    (hmoved : ∀ world events, more (world.moved world.room events) = more world) :
    Mirrors s (getThe World >>= next) (getThe World >>= more) := by
  intro world events z after hevents hrun
  rw [on_bind, on_get] at hrun ⊢
  dsimp only
  rw [hmoved]
  exact h world _ _ _ _ hevents hrun

theorem deeper {action : Action α} {other : Action β} (levels : Nat) (h : Mirrors r action other) :
    Mirrors r (Action.deeper levels action) (Action.deeper levels other) := by
  intro world events x after hevents hrun
  rw [on_deeper] at hrun ⊢
  split at hrun
  · cases hrun
  · next hroom =>
    obtain ⟨hresult, rfl⟩ := Prod.mk.inj hrun
    obtain ⟨y, others, hy, hothers, hxy⟩ :=
      h (world.moved (world.room - levels) world.events) events
      x _ hevents (Prod.ext hresult rfl)
    refine ⟨y, others, ?_, hothers, hxy⟩
    rw [if_neg (show ¬ (world.moved world.room events).room < levels from hroom)]
    have hinner : other.on ((world.moved world.room events).moved (world.room - levels) events) =
        _ := hy
    simp only [show (world.moved world.room events).room = world.room from rfl,
      show (world.moved world.room events).events = events from rfl, hinner]
    rfl

theorem mapM {Alike : α → β → Prop} {f : α → Action γ} {g : β → Action δ}
    (h : ∀ {x y}, Alike x y → Mirrors s (f x) (g y)) {xs : List α} {ys : List β}
    (halike : Forall₂ Alike xs ys) : Mirrors (Forall₂ s) (xs.mapM f) (ys.mapM g) := by
  induction halike with
  | nil => exact .pure .nil
  | cons hxy _ ih =>
    rw [List.mapM_cons, List.mapM_cons]
    exact (h hxy).bind fun hfirst => ih.bind fun hrest => .pure (.cons hfirst hrest)

end Mirrors

/-- Where the one action ends well, the other one ends well from the same world in a world that
differs in masked values only. The results are related. -/
def Agrees (r : α → β → Prop) (action : Action α) (other : Action β) : Prop :=
  ∀ (world : World) (x : α) (after : World), action.on world = (.ok x, after) →
    ∃ y others, other.on world = (.ok y, after.moved after.room others) ∧
      others.map Event.masked = after.events.map Event.masked ∧ r x y

theorem Mirrors.agrees {r : α → β → Prop} {action : Action α} {other : Action β}
    (h : Mirrors r action other) : Agrees r action other :=
  fun world x after hrun => h world world.events x after rfl hrun

/-- What is done before leads from one world to one world. -/
theorem Agrees.after {s : γ → δ → Prop} (action : Action α) {next : α → Action γ}
    {more : α → Action δ} (h : ∀ x, Agrees s (next x) (more x)) :
    Agrees s (action >>= next) (action >>= more) := by
  intro world z after hrun
  obtain ⟨x, between, hx, hz⟩ := on_bind_ok hrun
  obtain ⟨y, others, hy, hothers, hzy⟩ := h x between z after hz
  refine ⟨y, others, ?_, hothers, hzy⟩
  rw [on_bind, hx]
  exact hy

variable {headers others : Headers}

/-- A call is masked where it is noted; the reply does not depend on it. -/
theorem mirrors_send {call other : Call} (h : call.masked = other.masked) :
    Mirrors Eq (send call) (send other) := by
  intro world events reply after hevents hrun
  rw [on_send] at hrun
  obtain ⟨⟨⟩, rfl⟩ := Prod.mk.inj hrun
  refine ⟨_, .sent other :: events, rfl, ?_, rfl⟩
  change Event.sent other.masked :: _ = Event.sent call.masked :: _
  rw [h, hevents]

theorem mirrors_exchange (h : headers.masked = others.masked) (method url : String)
    (payload : Payload) (timeout : Option Seconds) :
    Mirrors Eq (exchange method url (some headers) payload timeout)
      (exchange method url (some others) payload timeout) := by
  have hcall := Call.masked_make h method url payload timeout
  have hmethod : (Call.make method url (some headers) payload timeout).method =
      (Call.make method url (some others) payload timeout).method := by
    cases payload <;> rfl
  unfold exchange
  dsimp only
  rw [hmethod]
  refine (Steady.log _ _).mirrors.bind_eq fun _ => (mirrors_send hcall).bind_eq fun reply => ?_
  refine .bind_get (fun world => ?_) fun _ _ => rfl
  refine (Steady.lift _).mirrors.bind_eq fun outcome => ?_
  split
  · split
    · exact (Steady.log _ _).mirrors.bind_eq fun _ => .pure rfl
    · exact .pure rfl
  · exact .pure rfl

end Action

end RequestScript
