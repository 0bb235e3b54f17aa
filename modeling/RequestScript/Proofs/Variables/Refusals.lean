import RequestScript.Proofs.Generator
import RequestScript.Proofs.Variables.Fixed
import RequestScript.Proofs.Variables.Interpolation

/-!
# Texts whose placeholders cannot be replaced

Replacing the placeholders of a text ends with a text, unless a placeholder shows a value that is
nested too deeply, a placeholder calls a generator in a way that fails, or the text asks for the
name of the active environment and a file gives something else than a text as that name. The first
placeholder that stops the replacing says what is wrong.
-/

namespace RequestScript

open Text

/-- A segment calls a generator in a way that fails. -/
def Segment.Fails (clock : Int) (segment : Segment) (fault : Fault) : Prop :=
  ∃ call, segment.call? = some call ∧ Generator.Fails clock call.1 call.2 fault

namespace Store

/-- What stops the replacing at a segment, where there is room for so many levels. -/
inductive Stops (store : Store) (room : Nat) (clock : Int) : Segment → Fault → Prop
  /-- The call fails. -/
  | call {segment : Segment} {generator : Generator} {arguments : List (List Char)}
      {fault : Fault} : segment.call? = some (generator, arguments) →
      Generator.Fails clock generator arguments fault → Stops store room clock segment fault
  /-- The value of the variable is nested too deeply. -/
  | deep {inner : List Char} {value : Value} : isName (trim inner) = true →
      store.FirstHolds (String.ofList (trim inner)) value → room < value.depth →
      Stops store room clock (.placeholder inner) .tooDeep

/-- What keeps segments from being replaced. -/
inductive Refuses (store : Store) (room : Nat) (clock : Int) (segments : List Segment) :
    Fault → Prop
  /-- The first segment that stops the replacing. -/
  | first {before after : List Segment} {segment : Segment} {fault : Fault} :
      segments = before ++ segment :: after →
      (∀ earlier ∈ before, ∀ other, ¬store.Stops room clock earlier other) →
      store.Stops room clock segment fault → Refuses store room clock segments fault
  /-- No segment does, but the name of the active environment is asked for and is no text. -/
  | name {inner : List Char} :
      (∀ segment ∈ segments, ∀ other, ¬store.Stops room clock segment other) →
      .placeholder inner ∈ segments → trim inner = "$env".toList → store.HasOddName →
      Refuses store room clock segments .wrongKind

variable {store : Store} {room : Nat} {clock : Int} {segment : Segment} {segments : List Segment}
  {fault : Fault} {dice : Dice}

/-- A name that is no text has no text to stand for. -/
theorem not_stands_of_hasOddName {inner text : List Char} (hkey : trim inner = "$env".toList)
    (hodd : store.HasOddName) : ¬store.Stands (.placeholder inner) text := by
  obtain ⟨value, hactive, hgiven, hvalue⟩ := hodd
  intro h
  cases h with
  | active _ hname =>
    rw [hactive, Option.filter_some, if_pos hgiven] at hname
    exact hvalue _ (Option.some.inj hname)
  | inactive _ hnone => simp [hactive, hgiven] at hnone
  | «variable» hname =>
    rw [hkey] at hname
    exact absurd hname (by decide)
  | itself hne => exact hne hkey

/-- Where segments are filled each of them that calls no generator stands for something. -/
theorem Fills.exists_stands {values : List (List Char)} {filled : List Char}
    (h : store.Fills segments values filled) {segment : Segment} (hmem : segment ∈ segments)
    (hcall : segment.call? = none) : ∃ text, store.Stands segment text := by
  induction h with
  | nil => cases hmem
  | generated hfirst _ ih =>
    rcases List.mem_cons.mp hmem with rfl | hrest
    · rw [hcall] at hfirst
      cases hfirst
    · exact ih hrest
  | stands _ hstands _ ih =>
    rcases List.mem_cons.mp hmem with rfl | hrest
    · exact ⟨_, hstands⟩
    · exact ih hrest

/-! ## One segment -/

theorem expand?_eq_error_iff :
    ((store.expand? clock segment).on dice).1 = .error fault ↔ segment.Fails clock fault := by
  unfold Segment.Fails
  cases hcall : segment.call? with
  | none =>
    obtain ⟨piece, hpiece, -⟩ : ∃ piece, (∀ dice,
        (store.expand? clock segment).on dice = (.ok piece, dice)) ∧ _ :=
      expand?_of_call? clock hcall
    simp [hpiece dice]
  | some call =>
    have hgenerator : ((Generator.answer clock call).on dice).1 = .error fault ↔
        Generator.Fails clock call.1 call.2 fault := Generator.generate_eq_error_iff call.1
    rw [on_expand?_of_call? hcall]
    simp only [Option.some.injEq, exists_eq_left', ← hgenerator]
    rcases (Generator.answer clock call).on dice with ⟨other | value, last⟩ <;> simp

theorem lt_depthOf_iff :
    room < store.depthOf segment ↔ ∃ inner value, segment = .placeholder inner ∧
      isName (trim inner) = true ∧ store.FirstHolds (String.ofList (trim inner)) value ∧
        room < value.depth := by
  simp only [firstHolds_iff]
  cases segment with
  | char c => simp [depthOf]
  | placeholder inner =>
    by_cases hname : isName (trim inner) = true
    · cases hvalue : store.value? (String.ofList (trim inner)) <;> simp [depthOf, hname, hvalue]
    · simp [depthOf, hname]

/-- A segment stops the replacing where its call fails or there is no room for its value. -/
theorem stops_iff : store.Stops room clock segment fault ↔
    segment.Fails clock fault ∨ room < store.depthOf segment ∧ fault = .tooDeep := by
  rw [lt_depthOf_iff]
  constructor
  · intro h
    cases h with
    | call hcall hfails => exact .inl ⟨_, hcall, hfails⟩
    | deep hname hvalue hlt => exact .inr ⟨⟨_, _, rfl, hname, hvalue, hlt⟩, rfl⟩
  · rintro (⟨call, hcall, hfails⟩ | ⟨⟨inner, value, rfl, hname, hvalue, hlt⟩, rfl⟩)
    · exact .call hcall hfails
    · exact .deep hname hvalue hlt

/-- Where there is room for its value only a failing call stops the replacing of a segment. -/
theorem stops_iff_of_fits (h : store.depthOf segment ≤ room) :
    store.Stops room clock segment fault ↔ segment.Fails clock fault := by
  rw [stops_iff]
  simp [Nat.not_lt.mpr h]

/-- A segment that shows the value of a variable calls no generator. -/
theorem call?_of_lt_depthOf (h : room < store.depthOf segment) : segment.call? = none := by
  obtain ⟨inner, value, rfl, hname, -⟩ := lt_depthOf_iff.mp h
  by_cases hactive : trim inner = "$env".toList
  · exact Segment.call?_active hactive
  · rw [Segment.call?_placeholder hactive, Option.eq_none_iff_forall_ne_some]
    exact fun call hcall => not_isPrefix_of_isName hname (Generator.isPrefix_of_call? hcall)

/-- Where there is no room for its value nothing else stops the replacing of a segment. -/
theorem stops_iff_of_lt_depthOf (h : room < store.depthOf segment) :
    store.Stops room clock segment fault ↔ fault = .tooDeep := by
  rw [stops_iff]
  simp [Segment.Fails, call?_of_lt_depthOf h, h]

/-! ## The whole text -/

/-- A segment is replaced where there is room for its value. -/
def expandWithin? (store : Store) (room : Nat) (clock : Int) (segment : Segment) :
    Chance (Option (List Char)) :=
  if room < store.depthOf segment then throw .tooDeep else store.expand? clock segment

theorem expandWithin?_eq_error_iff :
    ((store.expandWithin? room clock segment).on dice).1 = .error fault ↔
      store.Stops room clock segment fault := by
  unfold expandWithin?
  split
  · next hdeep =>
    rw [Chance.on_throw, stops_iff_of_lt_depthOf hdeep, Except.error.injEq, eq_comm]
  · next hfits => exact expand?_eq_error_iff.trans (stops_iff_of_fits (Nat.not_lt.mp hfits)).symm

theorem mapM_expandWithin?_of_fits (h : ∀ segment ∈ segments, store.depthOf segment ≤ room) :
    segments.mapM (store.expandWithin? room clock) = segments.mapM (store.expand? clock) := by
  induction segments with
  | nil => rfl
  | cons segment segments ih =>
    obtain ⟨hsegment, hrest⟩ := List.forall_mem_cons.mp h
    rw [List.mapM_cons, List.mapM_cons, ih hrest, expandWithin?, if_neg (Nat.not_lt.mpr hsegment)]

/-- A segment stops the replacing, or none of them does and a name is missing. -/
theorem refuses_iff (dice : Dice) :
    store.Refuses room clock segments fault ↔
      ((segments.mapM (store.expandWithin? room clock)).on dice).1 = .error fault ∨
        (∃ pieces, ((segments.mapM (store.expandWithin? room clock)).on dice).1 = .ok pieces) ∧
          fault = .wrongKind ∧ store.HasOddName ∧
            ∃ inner, .placeholder inner ∈ segments ∧ trim inner = "$env".toList := by
  have hstops : ∀ segment dice fault, ((store.expandWithin? room clock segment).on dice).1 =
      .error fault ↔ store.Stops room clock segment fault := fun _ _ _ => expandWithin?_eq_error_iff
  rw [Chance.mapM_eq_error_iff hstops, Chance.exists_mapM_eq_ok_iff hstops]
  constructor
  · intro h
    cases h with
    | first hsplit hbefore hsegment => exact .inl ⟨_, _, _, hsplit, hbefore, hsegment⟩
    | name hnone hmem hkey hodd => exact .inr ⟨hnone, rfl, hodd, _, hmem, hkey⟩
  · rintro (⟨before, segment, after, hsplit, hbefore, hsegment⟩ |
      ⟨hnone, rfl, hodd, inner, hmem, hkey⟩)
    · exact .first hsplit hbefore hsegment
    · exact .name hnone hmem hkey hodd

/-- Where there is room for all the values, a segment cannot be replaced, or all of them can and a
name is missing. -/
theorem on_interpolate_eq_error_iff {text : String} :
    ((store.interpolate clock text).on dice).1 = .error fault ↔
      (((Segment.split text.toList).mapM (store.expand? clock)).on dice).1 = .error fault ∨
        (∃ pieces,
          (((Segment.split text.toList).mapM (store.expand? clock)).on dice).1 = .ok pieces) ∧
          fault = .wrongKind ∧ store.HasOddName ∧
            ∃ inner, .placeholder inner ∈ Segment.split text.toList ∧
              trim inner = "$env".toList := by
  have hpieces := on_mapM_expand? store clock (Segment.split text.toList) dice
  rw [interpolate, Chance.on_bind]
  revert hpieces
  rcases ((Segment.split text.toList).filterMap Segment.call?).mapM (Generator.answer clock)
    |>.on dice with ⟨first | values, last⟩
  · intro hpieces
    dsimp only at hpieces ⊢
    simp [hpieces]
  · rintro ⟨pieces, hpieces, hfilled⟩
    rw [hpieces]
    cases hfilled with
    | @filled texts hfills =>
      have hall : (texts.map some).mapM id = some texts := mapM_id_map_some texts
      have hname : ∀ inner, .placeholder inner ∈ Segment.split text.toList →
          trim inner = "$env".toList → ¬store.HasOddName := by
        intro inner hmem hkey hodd
        obtain ⟨stated, hstands⟩ := hfills.exists_stands hmem (Segment.call?_active hkey)
        exact not_stands_of_hasOddName hkey hodd hstands
      simp only [hall]
      refine iff_of_false (fun hfault => ?_) ?_
      · cases hfault
      rintro (hfault | ⟨-, -, hodd, inner, hmem, hkey⟩)
      · cases hfault
      · exact hname inner hmem hkey hodd
    | odd hnone hodd hmem hkey =>
      have hmissing : pieces.mapM id = none := mapM_id_of_mem hnone
      simp only [hmissing, Chance.on_throw]
      constructor
      · intro hfault
        obtain rfl := Except.error.inj hfault
        exact .inr ⟨⟨pieces, rfl⟩, rfl, hodd, _, hmem, hkey⟩
      · rintro (hfault | ⟨-, rfl, -⟩)
        · cases hfault
        · rfl

/-- A text cannot be replaced for these causes, and only for these. -/
theorem on_interpolateWithin_eq_error_iff {text : String} :
    ((store.interpolateWithin room clock text).on dice).1 = .error fault ↔
      store.Refuses room clock (Segment.split text.toList) fault := by
  rw [refuses_iff dice]
  rcases fits_or_exists_deep store room (Segment.split text.toList) with
    hfits | ⟨before, segment, after, hsplit, hbefore, hdeep⟩
  · rw [interpolateWithin_of_fits hfits, mapM_expandWithin?_of_fits hfits]
    exact on_interpolate_eq_error_iff
  · have hstop : store.expandWithin? room clock segment = throw .tooDeep := if_pos hdeep
    rw [interpolateWithin_of_deep hsplit hbefore hdeep, hsplit, List.mapM_append, List.mapM_cons,
      hstop, mapM_expandWithin?_of_fits hbefore]
    simp only [Chance.on_bind, Chance.on_discard]
    rcases (before.mapM (store.expand? clock)).on dice with ⟨first | pieces, last⟩ <;>
      simp [Chance.on_throw]

end Store

namespace Action

/-- **Which texts cannot be filled**, for every store, every clock, all the room there is and
whatever is drawn: those with a placeholder that shows a value nested too deeply or whose call
fails, the first such placeholder from the left being the one that counts, and those that ask for a
name of the active environment that is no text. Every other text is filled. -/
theorem interpolate_eq_error_iff (text : String) (world : World) :
    ∃ segments, Segment.Divides segments text.toList ∧ ∀ fault,
      ((interpolate text).on world).1 = .error fault ↔
        world.store.Refuses world.room world.clock segments fault := by
  refine ⟨_, Segment.divides_split text.toList, fun fault => ?_⟩
  rw [on_interpolate]
  exact Store.on_interpolateWithin_eq_error_iff

/-- Texts that ask for a day out of the range of dates, and for too many decimal places, are not
filled, although there are no variables at all and the clock stands at the start of 1970. -/
theorem interpolate_farOffset :
    let world : World :=
      { files := ⟨[]⟩, dice := { source := fun _ => 0 }
        replies := fun _ => .failure .timeout "" }
    ((interpolate "\x7b\x7b$date:+9999999999\x7d\x7d").on world).1 = .error .dateOutOfRange ∧
      ((interpolate "\x7b\x7b$randomFloat:0:1:2147483648\x7d\x7d").on world).1 =
        .error .tooManyPlaces := by
  decide +kernel

end Action

end RequestScript
