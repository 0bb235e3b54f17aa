import RequestScript.Proofs.Variables.Interpolation
import RequestScript.Proofs.World.SteadyActions

/-!
# Texts without draws

A text that calls no generator is replaced by the same text whenever the variables are the same, and
no value is drawn for it. A text without two opening braces has no placeholder and is replaced by
itself.
-/

namespace RequestScript

open Text

/-- A text none of whose placeholders calls a generator. -/
def CallsNoGenerator (text : String) : Prop :=
  ∀ segment ∈ Segment.split text.toList, segment.call? = none

/-- A text without two opening braces. -/
def IsLiteral (text : String) : Prop :=
  ¬['\x7b', '\x7b'] <:+: text.toList

instance (text : String) : Decidable (CallsNoGenerator text) :=
  inferInstanceAs (Decidable (∀ segment ∈ _, Segment.call? segment = none))

instance (text : String) : Decidable (IsLiteral text) :=
  inferInstanceAs (Decidable (¬_))

theorem Segment.placeholder?_of_not_isPrefix {cs : List Char} (h : ¬['\x7b', '\x7b'] <+: cs) :
    placeholder? cs = none := by
  unfold placeholder?
  split
  · next rest => exact absurd ⟨rest, rfl⟩ h
  · rfl

/-- A text without two opening braces is split into its characters. -/
theorem Segment.split_of_not_isInfix {cs : List Char} (h : ¬['\x7b', '\x7b'] <:+: cs) :
    split cs = cs.map .char := by
  induction cs with
  | nil => rw [split, List.map_nil]
  | cons c cs ih =>
    have hnone : placeholder? (c :: cs) = none :=
      placeholder?_of_not_isPrefix fun hstart => h hstart.isInfix
    have hrest : split cs = cs.map .char :=
      ih fun hpart => h (hpart.trans (List.suffix_cons c cs).isInfix)
    rw [split, List.map_cons, ← hrest]
    split
    · next hsome => simp [hnone] at hsome
    · rfl

/-- A text without placeholders calls no generator. -/
theorem IsLiteral.callsNoGenerator {text : String} (h : IsLiteral text) :
    CallsNoGenerator text := by
  intro segment hmem
  rw [Segment.split_of_not_isInfix h] at hmem
  obtain ⟨c, -, rfl⟩ := List.mem_map.mp hmem
  rfl

namespace Store

variable {store : Store} {clock : Int} {text : String}

/-- A computation of pieces without draws. -/
theorem on_mapM_fixed {segments : List Segment} (h : ∀ segment ∈ segments, segment.call? = none)
    (store : Store) (clock : Int) :
    ∃ pieces, ∀ dice, (segments.mapM (store.expand? clock)).on dice = (.ok pieces, dice) := by
  induction segments with
  | nil => exact ⟨[], fun _ => rfl⟩
  | cons segment segments ih =>
    obtain ⟨hsegment, hrest⟩ := List.forall_mem_cons.mp h
    obtain ⟨piece, hpiece, -⟩ : ∃ piece, (∀ dice,
        (store.expand? clock segment).on dice = (.ok piece, dice)) ∧ _ :=
      expand?_of_call? clock hsegment
    obtain ⟨pieces, hpieces⟩ := ih hrest
    refine ⟨piece :: pieces, fun dice => ?_⟩
    simp only [List.mapM_cons, Chance.on_bind, hpiece, hpieces, Chance.on_pure]

/-- A text that calls no generator is replaced without draws. -/
theorem on_interpolate_fixed (h : CallsNoGenerator text) (store : Store) (clock : Int) :
    ∃ result, ∀ dice, (store.interpolate clock text).on dice = (result, dice) := by
  obtain ⟨pieces, hpieces⟩ := on_mapM_fixed h store clock
  unfold interpolate
  cases hall : pieces.mapM id with
  | some texts =>
    refine ⟨.ok (String.ofList texts.flatten), fun dice => ?_⟩
    simp only [Chance.on_bind, hpieces, hall, Chance.on_pure]
  | none =>
    refine ⟨.error .wrongKind, fun dice => ?_⟩
    simp only [Chance.on_bind, hpieces, hall, Chance.on_throw]

/-- A text without placeholders is replaced by itself. -/
theorem interpolate_literal (h : IsLiteral text) (store : Store) (clock : Int) :
    store.interpolate clock text = pure text := by
  have hpieces (cs : List Char) : (cs.map Segment.char).mapM (store.expand? clock) =
      pure (cs.map fun c => some [c]) := by
    induction cs with
    | nil => rfl
    | cons c cs ih =>
      rw [List.map_cons, List.mapM_cons, ih]
      rfl
  have htext : ((text.toList.map fun c => some [c]).mapM id : Option (List (List Char))) =
      some (text.toList.map fun c => [c]) := by
    rw [← mapM_id_map_some, List.map_map]
    rfl
  unfold interpolate
  rw [Segment.split_of_not_isInfix h, hpieces, pure_bind, htext]
  dsimp only
  rw [← List.flatMap_def, List.flatMap_singleton', String.ofList_toList]

/-- A text that calls no generator is replaced without draws, however much room there is. -/
theorem on_interpolateWithin_fixed (h : CallsNoGenerator text) (store : Store) (room : Nat)
    (clock : Int) :
    ∃ result, ∀ dice, (store.interpolateWithin room clock text).on dice = (result, dice) := by
  rcases fits_or_exists_deep store room (Segment.split text.toList) with
    hfits | ⟨before, segment, after, hsplit, hbefore, hdeep⟩
  · rw [interpolateWithin_of_fits hfits]
    exact on_interpolate_fixed h store clock
  · have hfixed : ∀ earlier ∈ before, earlier.call? = none :=
      fun earlier hmem => h earlier (hsplit ▸ List.mem_append_left _ hmem)
    obtain ⟨pieces, hpieces⟩ := on_mapM_fixed hfixed store clock
    exact ⟨.error .tooDeep, fun dice =>
      on_interpolateWithin_of_ok hsplit hbefore hdeep (hpieces dice)⟩

/-- A text without placeholders needs no room. -/
theorem interpolateWithin_literal (h : IsLiteral text) (store : Store) (room : Nat) (clock : Int) :
    store.interpolateWithin room clock text = pure text := by
  have hfits : ∀ segment ∈ Segment.split text.toList, store.depthOf segment ≤ room := by
    intro segment hmem
    rw [Segment.split_of_not_isInfix h] at hmem
    obtain ⟨c, -, rfl⟩ := List.mem_map.mp hmem
    exact Nat.zero_le room
  rw [interpolateWithin_of_fits hfits, interpolate_literal h]

end Store

namespace Action

variable {text : String} {world : World}

/-- A text that calls no generator is replaced without any change to the world. -/
theorem on_interpolate_fixed (h : CallsNoGenerator text) (world : World) :
    ((interpolate text).on world).2 = world := by
  obtain ⟨result, hresult⟩ := world.store.on_interpolateWithin_fixed h world.room world.clock
  rw [on_interpolate, hresult]

/-- A text without placeholders is replaced by itself. -/
theorem on_interpolate_literal (h : IsLiteral text) (world : World) :
    (interpolate text).on world = (.ok text, world) := by
  rw [on_interpolate, Store.interpolateWithin_literal h]
  rfl

end Action

end RequestScript
