import Mathlib.Data.List.TakeWhile
import RequestScript.Variables.Placeholder

/-!
# Where placeholders stand

A placeholder stands in a text wherever its text does. Two of them never overlap, since there is no
brace between their braces, so that a text is cut into its placeholders and the characters outside
them. The scan from left to right cuts it there.
-/

namespace RequestScript

open Text

namespace Segment

/-- What may stand between the braces of a placeholder: some characters, and no brace. -/
structure IsInner (inner : List Char) : Prop where
  /-- There is a character. -/
  ne_nil : inner ≠ []
  /-- No character is a brace. -/
  no_brace : ∀ c ∈ inner, isBrace c = false

/-- A placeholder stands in a text after some of its characters. -/
structure OccursAt (cs : List Char) (start : Nat) (inner : List Char) : Prop where
  /-- What is between the braces is that of a placeholder. -/
  isInner : IsInner inner
  /-- The text goes on with the placeholder. -/
  isPrefix : (placeholder inner).text <+: cs.drop start

/-- A placeholder is one of the segments, after others that have some characters together. -/
def HasAt (segments : List Segment) (start : Nat) (inner : List Char) : Prop :=
  ∃ front back, segments = front ++ placeholder inner :: back ∧ (front.flatMap text).length = start

/-- The segments of a text: they make up the text, and the placeholders among them are those that
stand in it. -/
structure Divides (segments : List Segment) (cs : List Char) : Prop where
  /-- The segments make up the text. -/
  text_eq : segments.flatMap text = cs
  /-- A placeholder stands in the text where a segment is that placeholder. -/
  occursAt_iff : ∀ start inner, OccursAt cs start inner ↔ HasAt segments start inner

variable {inner other cs after : List Char} {start next : Nat}

/-! ## One placeholder -/

/-- After the two braces that open it a placeholder has none of their kind. -/
theorem IsInner.ne_open (h : IsInner inner) : '\x7b' ∉ inner ++ ['\x7d', '\x7d'] := by
  intro hopen
  rcases List.mem_append.mp hopen with hinner | hclose
  · exact absurd (h.no_brace _ hinner) (by decide)
  · exact absurd hclose (by decide)

/-- No placeholder starts inside another one. -/
theorem IsInner.not_isPrefix_drop (h : IsInner inner) (after : List Char) (hpos : 0 < start)
    (hlt : start < (placeholder inner).text.length) :
    ¬['\x7b', '\x7b'] <+: ((placeholder inner).text ++ after).drop start := by
  have htext : (placeholder inner).text = '\x7b' :: '\x7b' :: (inner ++ ['\x7d', '\x7d']) := rfl
  have hopen := h.ne_open
  have hne : inner ++ ['\x7d', '\x7d'] ≠ [] := by simp
  rw [htext] at hlt ⊢
  generalize inner ++ ['\x7d', '\x7d'] = tail at hlt hopen hne ⊢
  rintro ⟨rest, hrest⟩
  obtain ⟨c, more, rfl⟩ := List.exists_cons_of_ne_nil hne
  match start, hpos with
  | 1, _ =>
    -- The second brace would be the first character between the braces.
    have hc : '\x7b' = c := (List.cons.inj (List.cons.inj hrest).2).1
    exact hopen (hc ▸ List.mem_cons_self)
  | skipped + 2, _ =>
    have hskipped : skipped < (c :: more).length := by simpa using hlt
    have hdrop : ((c :: more) ++ after).drop skipped = (c :: more).drop skipped ++ after :=
      List.drop_append_of_le_length hskipped.le
    have hfirst := hrest.trans hdrop
    rw [List.drop_eq_getElem_cons hskipped] at hfirst
    have hc : '\x7b' = (c :: more)[skipped] := (List.cons.inj hfirst).1
    exact hopen (hc ▸ List.getElem_mem hskipped)

/-- The placeholder at the start of a text. -/
theorem placeholder?_eq_some_iff :
    placeholder? cs = some (inner, after) ↔
      IsInner inner ∧ cs = (placeholder inner).text ++ after := by
  constructor
  · intro h
    unfold placeholder? at h
    split at h
    · next rest =>
      dsimp only at h
      split at h
      · next after' hdrop =>
        split at h
        · cases h
        · next hne =>
          obtain ⟨rfl, rfl⟩ := Prod.mk.inj (Option.some.inj h)
          have hrest : rest.takeWhile (!isBrace ·) ++ _ = rest :=
            List.prefix_iff_eq_append.mp (List.takeWhile_prefix _)
          rw [hdrop] at hrest
          refine ⟨⟨by simpa using hne, fun c hc => by simpa using List.mem_takeWhile_imp hc⟩, ?_⟩
          simp [text, hrest]
      · cases h
    · cases h
  · rintro ⟨hinner, rfl⟩
    have htake : (inner ++ '\x7d' :: '\x7d' :: after).takeWhile (!isBrace ·) = inner := by
      rw [List.takeWhile_append_of_pos (by simpa using hinner.no_brace)]
      simp [isBrace]
    have hcs : (placeholder inner).text ++ after =
        '\x7b' :: '\x7b' :: (inner ++ '\x7d' :: '\x7d' :: after) := by
      simp [text]
    rw [hcs, placeholder?]
    simp [htake, hinner.ne_nil]

/-- At one place there is one placeholder. -/
theorem OccursAt.unique (h : OccursAt cs start inner) (hother : OccursAt cs start other) :
    inner = other := by
  obtain ⟨after, hafter⟩ := h.isPrefix
  obtain ⟨after', hafter'⟩ := hother.isPrefix
  have hfound := placeholder?_eq_some_iff.mpr ⟨h.isInner, hafter.symm⟩
  have hfound' := placeholder?_eq_some_iff.mpr ⟨hother.isInner, hafter'.symm⟩
  exact (Prod.mk.inj (Option.some.inj (hfound.symm.trans hfound'))).1

/-- **Placeholders do not overlap**: the next one starts after the one before it has ended. -/
theorem OccursAt.add_length_le (h : OccursAt cs start inner) (hnext : OccursAt cs next other)
    (hlt : start < next) : start + (placeholder inner).text.length ≤ next := by
  by_contra hinside
  obtain ⟨after, hafter⟩ := h.isPrefix
  have hopen : ['\x7b', '\x7b'] <+: (placeholder other).text := ⟨_, rfl⟩
  have hdrop : cs.drop next = (cs.drop start).drop (next - start) := by
    rw [List.drop_drop]
    congr 1
    omega
  have hstarts := hopen.trans hnext.isPrefix
  rw [hdrop, ← hafter] at hstarts
  exact h.isInner.not_isPrefix_drop after (by omega) (by omega) hstarts

/-! ## The scan -/

theorem not_occursAt_nil : ¬OccursAt [] start inner := by
  intro h
  have hlength := h.isPrefix.length_le
  simp [text] at hlength

theorem not_hasAt_nil : ¬HasAt [] start inner := by
  rintro ⟨front, back, hnil, _⟩
  cases front <;> cases hnil

/-- A placeholder among segments is the first of them or one of the others. -/
theorem hasAt_cons_iff {segment : Segment} {segments : List Segment} :
    HasAt (segment :: segments) start inner ↔
      segment = placeholder inner ∧ start = 0 ∨
        ∃ later, start = segment.text.length + later ∧ HasAt segments later inner := by
  constructor
  · rintro ⟨front, back, hsegments, hlength⟩
    cases front with
    | nil =>
      obtain ⟨hfirst, _⟩ := List.cons.inj hsegments
      exact .inl ⟨hfirst, hlength.symm⟩
    | cons first front =>
      obtain ⟨rfl, hrest⟩ := List.cons.inj hsegments
      refine .inr ⟨(front.flatMap text).length, ?_, front, back, hrest, rfl⟩
      rw [← hlength, List.flatMap_cons, List.length_append]
  · rintro (⟨rfl, rfl⟩ | ⟨later, rfl, front, back, rfl, rfl⟩)
    · exact ⟨[], segments, rfl, rfl⟩
    · exact ⟨segment :: front, back, rfl, by rw [List.flatMap_cons, List.length_append]⟩

/-- Where a text starts with a placeholder, the others come after it. -/
theorem occursAt_append_iff (h : IsInner other) :
    OccursAt ((placeholder other).text ++ after) start inner ↔
      placeholder other = placeholder inner ∧ start = 0 ∨
        ∃ later, start = (placeholder other).text.length + later ∧ OccursAt after later inner := by
  have hfirst : OccursAt ((placeholder other).text ++ after) 0 other := ⟨h, ⟨after, rfl⟩⟩
  have hlater (later : Nat) : ((placeholder other).text ++ after).drop
      ((placeholder other).text.length + later) = after.drop later := by
    rw [List.drop_length_add_append]
  constructor
  · intro hoccurs
    rcases Nat.eq_zero_or_pos start with rfl | hpos
    · exact .inl ⟨congrArg placeholder (hfirst.unique hoccurs), rfl⟩
    · have hle := hfirst.add_length_le hoccurs hpos
      obtain ⟨later, hstart⟩ := Nat.exists_eq_add_of_le hle
      rw [Nat.zero_add] at hstart
      refine .inr ⟨later, hstart, hoccurs.isInner, ?_⟩
      rw [← hlater, ← hstart]
      exact hoccurs.isPrefix
  · rintro (⟨hsame, rfl⟩ | ⟨later, rfl, hoccurs⟩)
    · obtain rfl := Segment.placeholder.inj hsame
      exact hfirst
    · refine ⟨hoccurs.isInner, ?_⟩
      rw [hlater]
      exact hoccurs.isPrefix

/-- Where a text starts with no placeholder, they come after its first character. -/
theorem occursAt_cons_iff {c : Char} (h : placeholder? (c :: cs) = none) :
    OccursAt (c :: cs) start inner ↔
      char c = placeholder inner ∧ start = 0 ∨
        ∃ later, start = (char c).text.length + later ∧ OccursAt cs later inner := by
  constructor
  · intro hoccurs
    cases start with
    | zero =>
      obtain ⟨after, hafter⟩ := hoccurs.isPrefix
      have hfound := placeholder?_eq_some_iff.mpr ⟨hoccurs.isInner, hafter.symm⟩
      exact absurd (h.symm.trans hfound) (by simp)
    | succ later =>
      exact .inr ⟨later, Nat.add_comm later 1, hoccurs.isInner, hoccurs.isPrefix⟩
  · rintro (⟨hchar, _⟩ | ⟨later, rfl, hoccurs⟩)
    · cases hchar
    · refine ⟨hoccurs.isInner, ?_⟩
      rw [text, List.length_singleton, Nat.add_comm, List.drop_succ_cons]
      exact hoccurs.isPrefix

/-- **A text is cut into its placeholders and the characters outside them.** -/
theorem divides_split (cs : List Char) : Divides (split cs) cs := by
  fun_induction split cs with
  | case1 => exact ⟨rfl, fun _ _ => iff_of_false not_occursAt_nil not_hasAt_nil⟩
  | case2 c rest inner after hfound ih =>
    obtain ⟨hinner, hcs⟩ := placeholder?_eq_some_iff.mp hfound
    refine ⟨?_, fun start other => ?_⟩
    · rw [List.flatMap_cons, ih.text_eq, hcs]
    · rw [hcs, occursAt_append_iff hinner, hasAt_cons_iff]
      simp only [ih.occursAt_iff]
  | case3 c rest hnone ih =>
    refine ⟨?_, fun start other => ?_⟩
    · rw [List.flatMap_cons, ih.text_eq]
      rfl
    · rw [occursAt_cons_iff hnone, hasAt_cons_iff]
      simp only [ih.occursAt_iff]

/-- A placeholder at the start of a text is its first segment. -/
theorem split_placeholder (h : IsInner inner) (after : List Char) :
    split ((placeholder inner).text ++ after) = placeholder inner :: split after := by
  have hfound : placeholder? ((placeholder inner).text ++ after) = some (inner, after) :=
    placeholder?_eq_some_iff.mpr ⟨h, rfl⟩
  have hcons : (placeholder inner).text ++ after =
      '\x7b' :: ('\x7b' :: inner ++ ['\x7d', '\x7d'] ++ after) := rfl
  rw [hcons] at hfound ⊢
  rw [split]
  split
  · next inner' after' hfound' =>
    obtain ⟨rfl, rfl⟩ := Prod.mk.inj (Option.some.inj (hfound.symm.trans hfound'))
    rfl
  · next hnone => exact absurd (hnone.symm.trans hfound) (by simp)

end Segment

end RequestScript
