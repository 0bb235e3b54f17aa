import RequestScript.Proofs.Chance
import RequestScript.Variables.Placeholder

/-!
# Room for the values that a text shows

A text that shows no value that is nested too deeply is replaced as if there were room without end.
Of any other text only what stands before the first such value is looked at. More room makes no
other difference than that it lets the replacing go on where a value was nested too deeply.
-/

namespace RequestScript.Store

variable {store : Store} {room : Nat} {clock : Int} {text : String} {dice : Dice}

/-- There is room for all the values that segments show, or there is a first one without room. -/
theorem fits_or_exists_deep (store : Store) (room : Nat) (segments : List Segment) :
    (∀ segment ∈ segments, store.depthOf segment ≤ room) ∨
      ∃ before segment after, segments = before ++ segment :: after ∧
        (∀ earlier ∈ before, store.depthOf earlier ≤ room) ∧ room < store.depthOf segment := by
  by_cases hdeep : ∃ segment ∈ segments, room < store.depthOf segment
  · obtain ⟨segment, hmem, hlt⟩ := hdeep
    have hfound : (segments.find? (room < store.depthOf ·)).isSome :=
      List.find?_isSome.mpr ⟨segment, hmem, decide_eq_true hlt⟩
    obtain ⟨first, hfirst⟩ := Option.isSome_iff_exists.mp hfound
    obtain ⟨hworst, before, after, hsplit, hbefore⟩ := List.find?_eq_some_iff_append.mp hfirst
    refine .inr ⟨before, first, after, hsplit, fun earlier hearlier => ?_, of_decide_eq_true hworst⟩
    have hnot := hbefore earlier hearlier
    simp only [Bool.not_eq_true', decide_eq_false_iff_not, Nat.not_lt] at hnot
    exact hnot
  · exact .inl fun segment hmem => Nat.not_lt.mp fun hlt => hdeep ⟨segment, hmem, hlt⟩

/-- Where there is room for all the values it makes no difference how much. -/
theorem interpolateWithin_of_fits
    (h : ∀ segment ∈ Segment.split text.toList, store.depthOf segment ≤ room) :
    store.interpolateWithin room clock text = store.interpolate clock text := by
  have hall : (Segment.split text.toList).all (store.depthOf · ≤ room) = true :=
    List.all_eq_true.mpr fun segment hmem => decide_eq_true (h segment hmem)
  unfold interpolateWithin
  exact if_pos hall

section Deep

variable {before after : List Segment} {segment : Segment}

/-- What stands before the first value without room is looked at. -/
theorem interpolateWithin_of_deep (hsplit : Segment.split text.toList = before ++ segment :: after)
    (hbefore : ∀ earlier ∈ before, store.depthOf earlier ≤ room)
    (hdeep : room < store.depthOf segment) :
    store.interpolateWithin room clock text =
      (do
        discard <| before.mapM (store.expand? clock)
        throw .tooDeep) := by
  have hnot : ¬(decide (store.depthOf segment ≤ room)) = true := by
    simpa using hdeep
  have hall : ¬(Segment.split text.toList).all (store.depthOf · ≤ room) = true := by
    intro hall
    exact hnot (List.all_eq_true.mp hall segment (hsplit ▸ by simp))
  have hfitting : (Segment.split text.toList).takeWhile (store.depthOf · ≤ room) = before := by
    rw [hsplit, List.takeWhile_append_of_pos fun earlier hmem =>
      decide_eq_true (hbefore earlier hmem), List.takeWhile_cons, if_neg hnot, List.append_nil]
  unfold interpolateWithin
  dsimp only
  rw [if_neg hall, hfitting]

/-- What stops the replacing of segments with room stops that of a text that starts with them. -/
theorem on_interpolateWithin_of_error {fault : Fault} {last : Dice}
    (hsplit : Segment.split text.toList = before ++ after)
    (hbefore : ∀ earlier ∈ before, store.depthOf earlier ≤ room)
    (herror : (before.mapM (store.expand? clock)).on dice = (.error fault, last)) :
    (store.interpolateWithin room clock text).on dice = (.error fault, last) := by
  have hmore (rest : List Segment) :
      ((before ++ rest).mapM (store.expand? clock)).on dice = (.error fault, last) := by
    rw [List.mapM_append, Chance.on_bind, herror]
  rcases fits_or_exists_deep store room after with hfits | ⟨middle, deep, rest, rfl, hmiddle, hdeep⟩
  · have hall : ∀ segment ∈ Segment.split text.toList, store.depthOf segment ≤ room := by
      rw [hsplit]
      exact List.forall_mem_append.mpr ⟨hbefore, hfits⟩
    rw [interpolateWithin_of_fits hall, interpolate, Chance.on_bind, hsplit, hmore]
  · have hwhole : Segment.split text.toList = (before ++ middle) ++ deep :: rest := by
      rw [hsplit, List.append_assoc]
    rw [interpolateWithin_of_deep hwhole (List.forall_mem_append.mpr ⟨hbefore, hmiddle⟩) hdeep,
      Chance.on_bind, Chance.on_discard, hmore]

/-- Where nothing stops the replacing of what stands before it, a value without room does. -/
theorem on_interpolateWithin_of_ok {pieces : List (Option (List Char))} {last : Dice}
    (hsplit : Segment.split text.toList = before ++ segment :: after)
    (hbefore : ∀ earlier ∈ before, store.depthOf earlier ≤ room)
    (hdeep : room < store.depthOf segment)
    (hok : (before.mapM (store.expand? clock)).on dice = (.ok pieces, last)) :
    (store.interpolateWithin room clock text).on dice = (.error .tooDeep, last) := by
  rw [interpolateWithin_of_deep hsplit hbefore hdeep, Chance.on_bind, Chance.on_discard, hok]
  rfl

end Deep

/-- Only a text with room for all its values is replaced. -/
theorem on_interpolate_of_within {filled : String} {last : Dice}
    (h : (store.interpolateWithin room clock text).on dice = (.ok filled, last)) :
    (store.interpolate clock text).on dice = (.ok filled, last) := by
  rcases fits_or_exists_deep store room (Segment.split text.toList) with
    hfits | ⟨before, segment, after, hsplit, hbefore, hdeep⟩
  · rwa [interpolateWithin_of_fits hfits] at h
  · rw [interpolateWithin_of_deep hsplit hbefore hdeep, Chance.on_bind] at h
    split at h
    · cases h
    · cases h

/-- With more room a text is replaced in the same way, unless there was too little of it. -/
theorem on_interpolateWithin_more {more : Nat} (hle : room ≤ more) (dice : Dice) :
    (store.interpolateWithin more clock text).on dice =
        (store.interpolateWithin room clock text).on dice ∨
      ((store.interpolateWithin room clock text).on dice).1 = .error .tooDeep := by
  rcases fits_or_exists_deep store room (Segment.split text.toList) with
    hfits | ⟨before, segment, after, hsplit, hbefore, hdeep⟩
  · have hmore : ∀ segment ∈ Segment.split text.toList, store.depthOf segment ≤ more :=
      fun segment hmem => Nat.le_trans (hfits segment hmem) hle
    rw [interpolateWithin_of_fits hfits, interpolateWithin_of_fits hmore]
    exact .inl rfl
  · rcases hresult : (before.mapM (store.expand? clock)).on dice with ⟨fault | pieces, last⟩
    · have hmore : ∀ earlier ∈ before, store.depthOf earlier ≤ more :=
        fun earlier hmem => Nat.le_trans (hbefore earlier hmem) hle
      rw [on_interpolateWithin_of_error hsplit hbefore hresult,
        on_interpolateWithin_of_error hsplit hmore hresult]
      exact .inl rfl
    · rw [on_interpolateWithin_of_ok hsplit hbefore hdeep hresult]
      exact .inr rfl

end RequestScript.Store
