import RequestScript.Proofs.World.Steady

/-!
# Actions with the same effects

One action follows another if it has the same effects in a world with less room, until one of the
two is stopped where the other may go on: the first for want of room, or either of them, if times
are measured, by a number that is out of range. Messages in the log are no effects.
-/

namespace RequestScript

/-- Two worlds are alike if they differ in nothing but messages in the log. -/
def World.Alike (world other : World) : Prop :=
  other = world.moved world.room other.events ∧ other.effects = world.effects

/-- A world lies within another one if the two differ in nothing but messages in the log, and
the other one has more room by at least so many levels. -/
structure World.Within (levels : Nat) (world other : World) : Prop where
  eq_moved : other = world.moved other.room other.events
  room_le : world.room + levels ≤ other.room
  effects_eq : other.effects = world.effects

/-- Whether a fault is about a number that is too large or has too many digits. -/
def Fault.isNumeric : Fault → Bool
  | .numeralTooLong | .numberTooLarge => true
  | _ => false

namespace Action

variable {α β γ δ : Type} {measured : Prop} {levels : Nat}

/-- The effects of a steady action come after those before it. -/
theorem Steady.effects_grow {action : Action α} (h : Steady action) (world : World) :
    world.effects <+: (action.on world).2.effects := by
  obtain ⟨new, hnew⟩ := h.exists_events world
  exact ⟨_, (World.effects_of_events hnew).symm⟩

/-- Two results that are alike, unless a measured number is out of range on one side. -/
inductive Parallel (measured : Prop) : Except Fault α → Except Fault β → Prop
  | ok (x : α) (y : β) : Parallel measured (.ok x) (.ok y)
  | error (fault : Fault) : Parallel measured (.error fault) (.error fault)
  | first {fault : Fault} {other : Except Fault β} :
      measured → fault.isNumeric = true → Parallel measured (.error fault) other
  | second {fault : Fault} {result : Except Fault α} :
      measured → fault.isNumeric = true → Parallel measured result (.error fault)

namespace Parallel

/-- Two runs of a computation are alike whatever their results are. -/
theorem refl (result : Except Fault α) : Parallel measured result result := by
  cases result with
  | ok x => exact .ok x x
  | error fault => exact .error fault

theorem bind {result : Except Fault α} {other : Except Fault β} {next : α → Except Fault γ}
    {following : β → Except Fault δ} (h : Parallel measured result other)
    (hnext : ∀ x y, Parallel measured (next x) (following y)) :
    Parallel measured (result >>= next) (other >>= following) := by
  cases h with
  | ok x y => exact hnext x y
  | error fault => exact .error fault
  | first hmeasured hfault => exact .first hmeasured hfault
  | second hmeasured hfault => exact .second hmeasured hfault

theorem mapM {f : γ → Except Fault α} {g : γ → Except Fault β} {xs : List γ}
    (h : ∀ x ∈ xs, Parallel measured (f x) (g x)) : Parallel measured (xs.mapM f) (xs.mapM g) := by
  induction xs with
  | nil => exact .ok [] []
  | cons x xs ih =>
    rw [List.mapM_cons, List.mapM_cons]
    refine (h x List.mem_cons_self).bind fun y z => ?_
    exact (ih fun x' hx' => h x' (List.mem_cons_of_mem x hx')).bind fun ys zs => .ok _ _

end Parallel

/-- What has become of two actions, of which the first follows the second. -/
inductive Matches (measured : Prop) (levels : Nat) (R : α → β → Prop) :
    Except Fault α × World → Except Fault β × World → Prop
  /-- Both have ended well. -/
  | ok {x : α} {y : β} {world other : World} :
      R x y → world.Within levels other → Matches measured levels R (.ok x, world) (.ok y, other)
  /-- Both have been stopped by the same fault. -/
  | error {fault : Fault} {world other : World} :
      world.Within levels other →
        Matches measured levels R (.error fault, world) (.error fault, other)
  /-- The first has been stopped for want of room. -/
  | tooDeep {result : Except Fault β} {world other : World} :
      world.effects <+: other.effects →
        Matches measured levels R (.error .tooDeep, world) (result, other)
  /-- The first has been stopped by a measured number. -/
  | first {fault : Fault} {result : Except Fault β} {world other : World} :
      measured → fault.isNumeric = true → world.effects <+: other.effects →
      Matches measured levels R (.error fault, world) (result, other)
  /-- The second has been stopped by a measured number. -/
  | second {fault : Fault} {result : Except Fault α} {world other : World} :
      measured → fault.isNumeric = true → other.effects <+: world.effects →
      Matches measured levels R (result, world) (.error fault, other)

/-- What has become of two actions still matches in other worlds with the same effects, if these lie
within each other. -/
theorem Matches.change {R : α → β → Prop} {more : Nat} {start : Except Fault α × World}
    {twin : Except Fault β × World} {world other : World}
    (h : Matches measured levels R start twin) (hworld : world.effects = start.2.effects)
    (hother : other.effects = twin.2.effects)
    (hwithin : start.2.Within levels twin.2 → world.Within more other) :
    Matches measured more R (start.1, world) (twin.1, other) := by
  cases h with
  | ok hxy hfar => exact .ok hxy (hwithin hfar)
  | error hfar => exact .error (hwithin hfar)
  | tooDeep hpart => exact .tooDeep (by rwa [hworld, hother])
  | first hmeasured hfault hpart => exact .first hmeasured hfault (by rwa [hworld, hother])
  | second hmeasured hfault hpart => exact .second hmeasured hfault (by rwa [hworld, hother])

/-- An action follows another if the two match in worlds of which the first lies within the
second. -/
def Follows (measured : Prop) (levels : Nat) (R : α → β → Prop) (action : Action α)
    (other : Action β) : Prop :=
  ∀ small large, World.Within levels small large →
    Matches measured levels R (action.on small) (other.on large)

/-- Whatever the results are. -/
abbrev anyway : α → β → Prop := fun _ _ => True

namespace Follows

variable {R : α → β → Prop} {S : γ → δ → Prop} {action : Action α} {other : Action β}

theorem pure {x : α} {y : β} (h : R x y) :
    Follows measured levels R (Pure.pure x : Action α) (Pure.pure y : Action β) :=
  fun _ _ hwithin => .ok h hwithin

/-- A steady action follows itself. -/
theorem of_steady (h : Steady action) : Follows measured levels Eq action action := by
  intro small large hwithin
  obtain ⟨new, hnew, hroom, hmore⟩ := h small
  have heffects := World.effects_of_events hnew
  rw [hwithin.eq_moved]
  have hlarge : small.room ≤ large.room := by
    have hle := hwithin.room_le
    omega
  rcases hmore large.room large.events hlarge with hsame | ⟨hdeep, more, hgoes⟩
  · rw [hsame]
    have hafter : (action.on small).2.Within levels
        ((action.on small).2.moved large.room (new ++ large.events)) := by
      refine ⟨rfl, hroom ▸ hwithin.room_le, ?_⟩
      rw [heffects, ← hwithin.effects_eq]
      exact World.effects_of_events rfl
    rcases hsmall : action.on small with ⟨fault | x, after⟩
    · rw [hsmall] at hafter
      exact .error hafter
    · rw [hsmall] at hafter
      exact .ok rfl hafter
  · have hpart : (action.on small).2.effects <+:
        (action.on (small.moved large.room large.events)).2.effects := by
      rw [← List.append_assoc] at hgoes
      have hlarge : _ = large.effects ++ _ := World.effects_of_events hgoes
      rw [hlarge, heffects, hwithin.effects_eq, List.filter_append, List.reverse_append]
      exact ⟨_, List.append_assoc _ _ _⟩
    rcases hsmall : action.on small with ⟨result, after⟩
    rw [hsmall] at hdeep hpart
    obtain rfl : result = .error .tooDeep := hdeep
    exact .tooDeep hpart

theorem of_parallel {result : Except Fault α} {second : Except Fault β}
    (h : Parallel measured result second) :
    Follows measured levels anyway (liftM result : Action α) (liftM second : Action β) := by
  intro small large hwithin
  rw [on_lift, on_lift]
  cases h with
  | ok x y => exact .ok trivial hwithin
  | error fault => exact .error hwithin
  | first hmeasured hfault =>
    exact .first hmeasured hfault (hwithin.effects_eq ▸ List.prefix_refl _)
  | second hmeasured hfault =>
    exact .second hmeasured hfault (hwithin.effects_eq ▸ List.prefix_refl _)

theorem of_reads {action : Action α} {other : Action β} (haction : Reads action)
    (hother : Reads other) (h : ∀ small large, World.Within levels small large →
      Parallel measured (action.on small).1 (other.on large).1) :
    Follows measured levels anyway action other := by
  intro small large hwithin
  have hmatches := of_parallel (h small large hwithin) small large hwithin
  rw [on_lift, on_lift] at hmatches
  rw [haction.on_eq, hother.on_eq]
  exact hmatches

/-- What follows two actions, of which one follows the other. -/
theorem bind {next : α → Action γ} {following : β → Action δ}
    (h : Follows measured levels R action other)
    (hnext : ∀ x y, R x y → Follows measured levels S (next x) (following y))
    (hfirst : ∀ x, Steady (next x)) (hsecond : ∀ y, Steady (following y)) :
    Follows measured levels S (action >>= next) (other >>= following) := by
  intro small large hwithin
  have hmatches := h small large hwithin
  rw [on_bind, on_bind]
  generalize action.on small = start at hmatches ⊢
  generalize other.on large = twin at hmatches ⊢
  -- The side that goes on only adds effects.
  cases hmatches with
  | ok hxy hbetween => exact hnext _ _ hxy _ _ hbetween
  | error hbetween => exact .error hbetween
  | @tooDeep result _ far hpart =>
    cases result with
    | error fault => exact .tooDeep hpart
    | ok y => exact .tooDeep (hpart.trans ((hsecond y).effects_grow far))
  | @first _ result _ far hmeasured hfault hpart =>
    cases result with
    | error fault => exact .first hmeasured hfault hpart
    | ok y => exact .first hmeasured hfault (hpart.trans ((hsecond y).effects_grow far))
  | @second _ result after _ hmeasured hfault hpart =>
    cases result with
    | error fault => exact .second hmeasured hfault hpart
    | ok x => exact .second hmeasured hfault (hpart.trans ((hfirst x).effects_grow after))

/-- What a steady action goes on with on both sides. -/
theorem bind_same {first : Action α} {next : α → Action γ} {following : α → Action δ}
    (h : Steady first) (hnext : ∀ x, Follows measured levels S (next x) (following x))
    (hfirst : ∀ x, Steady (next x)) (hsecond : ∀ x, Steady (following x)) :
    Follows measured levels S (first >>= next) (first >>= following) := by
  refine (of_steady h).bind ?_ hfirst hsecond
  rintro x _ rfl
  exact hnext x

theorem bind_get_left {next : World → Action α}
    (h : ∀ world, Follows measured levels R (next world) other) :
    Follows measured levels R (getThe World >>= next) other := by
  intro small large hwithin
  rw [on_bind, on_get]
  exact h small small large hwithin

theorem bind_get_right {next : World → Action β}
    (h : ∀ world, Follows measured levels R action (next world)) :
    Follows measured levels R action (getThe World >>= next) := by
  intro small large hwithin
  rw [on_bind, on_get]
  exact h large small large hwithin

/-- Results may be put into another form. -/
theorem map {first : α → γ} {second : β → δ} (h : Follows measured levels R action other)
    (hS : ∀ x y, R x y → S (first x) (second y)) :
    Follows measured levels S (action >>= fun x => Pure.pure (first x))
      (other >>= fun y => Pure.pure (second y)) :=
  h.bind (fun x y hxy => pure (hS x y hxy)) (fun _ => .pure _) fun _ => .pure _

theorem map_left {first : α → γ} (h : Follows measured levels anyway action other) :
    Follows measured levels anyway (action >>= fun x => Pure.pure (first x)) other := by
  have hbind : Follows measured levels anyway (action >>= fun x => Pure.pure (first x))
      (other >>= Pure.pure) :=
    h.bind (fun _ _ _ => pure trivial) (fun _ => .pure _) fun _ => .pure _
  rwa [bind_pure] at hbind

theorem map_right {second : β → γ} (h : Follows measured levels anyway action other) :
    Follows measured levels anyway action (other >>= fun y => Pure.pure (second y)) := by
  have hbind : Follows measured levels anyway (action >>= Pure.pure)
      (other >>= fun y => Pure.pure (second y)) :=
    h.bind (fun _ _ _ => pure trivial) (fun _ => .pure _) fun _ => .pure _
  rwa [bind_pure] at hbind

theorem log_left (source message : String) (h : Follows measured levels R action other) :
    Follows measured levels R (log source message >>= fun _ => action) other := by
  intro small large hwithin
  refine h (small.moved small.room (.logged source message :: small.events)) large ?_
  refine ⟨hwithin.eq_moved, hwithin.room_le, ?_⟩
  rw [hwithin.effects_eq]
  rfl

theorem log_right (source message : String) (h : Follows measured levels R action other) :
    Follows measured levels R action (log source message >>= fun _ => other) := by
  intro small large hwithin
  refine h small (large.moved large.room (.logged source message :: large.events)) ?_
  refine ⟨congrArg (World.moved · _ _) hwithin.eq_moved, hwithin.room_le, ?_⟩
  rw [← hwithin.effects_eq]
  rfl

/-- Less room makes no difference but that the action may be stopped earlier. -/
theorem deeper_left (taken : Nat) (h : Follows measured levels R action other)
    (hother : Steady other) : Follows measured levels R (deeper taken action) other := by
  intro small large hwithin
  have hle := hwithin.room_le
  rw [on_deeper]
  by_cases htaken : small.room < taken
  · rw [if_pos htaken]
    refine .tooDeep ?_
    rw [← hwithin.effects_eq]
    exact hother.effects_grow large
  · rw [if_neg htaken]
    have hless : (small.moved (small.room - taken) small.events).Within levels large := by
      refine ⟨hwithin.eq_moved, ?_, hwithin.effects_eq⟩
      change small.room - taken + levels ≤ large.room
      omega
    refine (h _ large hless).change rfl rfl fun hfar => ⟨hfar.eq_moved, ?_, hfar.effects_eq⟩
    exact Nat.le_trans hle (Nat.le_of_eq (hother.room_eq large).symm)

/-- Where there are more levels left, some of them may be taken on the other side. -/
theorem deeper_right (taken : Nat) (h : Follows measured levels R action other)
    (haction : Steady action) :
    Follows measured (levels + taken) R action (deeper taken other) := by
  intro small large hwithin
  have hle := hwithin.room_le
  rw [on_deeper, if_neg (by omega)]
  have hless : small.Within levels (large.moved (large.room - taken) large.events) := by
    refine ⟨congrArg (World.moved · _ _) hwithin.eq_moved, ?_, hwithin.effects_eq⟩
    change small.room + levels ≤ large.room - taken
    omega
  refine (h small _ hless).change rfl rfl fun hfar => ?_
  refine ⟨congrArg (World.moved · _ _) hfar.eq_moved, ?_, hfar.effects_eq⟩
  exact Nat.le_trans (Nat.add_le_add_right (Nat.le_of_eq (haction.room_eq small)) _) hle

end Follows

end Action

end RequestScript
