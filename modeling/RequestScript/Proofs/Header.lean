import Mathlib.Data.List.Nodup
import RequestScript.Header

/-!
# Headers in any case

Headers are looked up in any case, while those of one table override those of another one by the
exact spelling of their names. A name that the two tables spell differently stays twice, and the
value that was there before is found in every spelling but the new one.
-/

namespace RequestScript.Headers

/-- No two names differ in case only. -/
def CaseDistinct (headers : Headers) : Prop :=
  (Table.names headers).Pairwise fun a b => sameName a b = false

instance (headers : Headers) : Decidable headers.CaseDistinct :=
  inferInstanceAs (Decidable (List.Pairwise _ _))

/-- There is another spelling of a name. -/
structure Respells (headers : Headers) (name other : String) : Prop where
  mem_names : other ∈ Table.names headers
  alike : sameName other name = true
  ne : other ≠ name

/-- Headers that have been merged, as far as the case of their names is concerned: some that were
there before, and the ones that override them. -/
structure Overrides (before own merged : Headers) : Prop where
  /-- No two names differ in case only, unless a name that overrides was spelled in another way. -/
  caseDistinct_iff : merged.CaseDistinct ↔
    ∀ name ∈ Table.names own, ∀ other, ¬before.Respells name other
  /-- A name that was not spelled in another way is found in every spelling. -/
  find?_eq_own : ∀ name value, (name, value) ∈ own → (∀ other, ¬before.Respells name other) →
    ∀ spelling, sameName spelling name = true → merged.find? spelling = some value
  /-- A name that was spelled in another way is found in its own spelling only, and what was there
  before in every other one. -/
  find?_eq_ite : ∀ name value other old, (name, value) ∈ own → (other, old) ∈ before →
    before.Respells name other → ∀ spelling, sameName spelling name = true →
      merged.find? spelling = some (if spelling = name then value else old)

variable {headers before own : Headers} {name other spelling value old : String}

/-! ## Spellings -/

theorem sameName_iff {a b : String} :
    sameName a b = true ↔ Text.lowercased a = Text.lowercased b :=
  beq_iff_eq

theorem sameName_comm (a b : String) : sameName a b = sameName b a :=
  Bool.beq_comm

theorem sameName_trans {a b c : String} (hab : sameName a b = true) (hbc : sameName b c = true) :
    sameName a c = true :=
  sameName_iff.mpr ((sameName_iff.mp hab).trans (sameName_iff.mp hbc))

theorem caseDistinct_iff_nodup :
    headers.CaseDistinct ↔ ((Table.names headers).map Text.lowercased).Nodup := by
  simp only [CaseDistinct, List.Nodup, List.pairwise_map, sameName, beq_eq_false_iff_ne]

theorem CaseDistinct.nodup (h : headers.CaseDistinct) : (Table.names headers).Nodup :=
  (caseDistinct_iff_nodup.mp h).of_map _

/-- A name has one spelling only. -/
theorem CaseDistinct.eq_of_sameName (h : headers.CaseDistinct) (hname : name ∈ Table.names headers)
    (hother : other ∈ Table.names headers) (hsame : sameName other name = true) : other = name :=
  List.inj_on_of_nodup_map (caseDistinct_iff_nodup.mp h) hother hname (sameName_iff.mp hsame)

/-! ## Looking up -/

theorem mem_names_of_mem (h : (name, value) ∈ headers) : name ∈ Table.names headers :=
  List.mem_map_of_mem (f := Prod.fst) h

/-- The first name that is spelled in any way is the one that is found, unless a spelling is there
exactly. -/
theorem find?_of_first (hnodup : (Table.names headers).Nodup) {first : String}
    (hfirst : (Table.names headers).find? (sameName · spelling) = some first)
    (hexact : spelling ∈ Table.names headers → spelling = first) :
    headers.find? spelling = Table.get? headers first := by
  unfold find?
  cases hget : Table.get? headers spelling with
  | some value =>
    have hspelling := hexact (mem_names_of_mem (Table.mem_of_get? hget))
    rw [← hspelling, hget]
  | none =>
    rw [Table.names, List.find?_map] at hfirst
    obtain ⟨⟨key, value⟩, hfind, rfl⟩ := Option.map_eq_some_iff.mp hfirst
    have hmem := List.mem_of_find?_eq_some hfind
    change List.find? (fun header => sameName header.1 spelling) headers = some (key, value)
      at hfind
    rw [Table.get?_of_mem hnodup hmem, hfind]
    rfl

/-- The one name that is spelled in any way is the first one. -/
theorem find?_names_of_unique {names : List String} (hmem : name ∈ names)
    (hunique : ∀ other ∈ names, sameName other name = true → other = name)
    (hsame : sameName spelling name = true) : names.find? (sameName · spelling) = some name := by
  cases hfind : names.find? (sameName · spelling) with
  | none =>
    have hnot := List.find?_eq_none.mp hfind name hmem
    rw [sameName_comm] at hnot
    exact absurd hsame hnot
  | some first =>
    have hlike : sameName first spelling = true := by simpa using List.find?_some hfind
    rw [hunique first (List.mem_of_find?_eq_some hfind) (sameName_trans hlike hsame)]

/-- A header whose name is spelled in no other way is found in every spelling. -/
theorem find?_of_unique (hnodup : (Table.names headers).Nodup) (hmem : (name, value) ∈ headers)
    (hunique : ∀ other ∈ Table.names headers, sameName other name = true → other = name)
    (hsame : sameName spelling name = true) : headers.find? spelling = some value := by
  have hfirst := find?_names_of_unique (mem_names_of_mem hmem) hunique hsame
  rw [find?_of_first hnodup hfirst fun hspelling => hunique spelling hspelling hsame,
    Table.get?_of_mem hnodup hmem]

/-! ## Merging -/

theorem caseDistinct_merge_iff (hbefore : before.CaseDistinct) (hown : own.CaseDistinct) :
    Headers.CaseDistinct (Table.merge before own) ↔
      ∀ name ∈ Table.names own, ∀ other, ¬before.Respells name other := by
  rw [CaseDistinct, Table.names_merge _ hown.nodup, List.pairwise_append]
  constructor
  · rintro ⟨-, -, hapart⟩ name hname other ⟨hother, hsame, hne⟩
    by_cases hknown : name ∈ Table.names before
    · exact hne (hbefore.eq_of_sameName hknown hother hsame)
    · have hdiffer := hapart other hother name (List.mem_filter.mpr ⟨hname, by simpa using hknown⟩)
      rw [hsame] at hdiffer
      cases hdiffer
  · intro hnone
    refine ⟨hbefore, hown.filter _, fun other hother name hname => ?_⟩
    obtain ⟨hname, hnew⟩ := List.mem_filter.mp hname
    rw [Bool.eq_false_iff]
    intro hsame
    refine hnone name hname other ⟨hother, hsame, ?_⟩
    rintro rfl
    exact absurd hother (by simpa using hnew)

/-- What overrides is in the merged headers. -/
theorem mem_merge_of_mem (hown : own.CaseDistinct) (h : (name, value) ∈ own) :
    (name, value) ∈ Table.merge before own := by
  refine Table.mem_of_get? ?_
  rw [Table.get?_merge, Table.get?_reverse hown.nodup, Table.get?_of_mem hown.nodup h,
    Option.some_or]

theorem mem_names_merge (hown : own.CaseDistinct) :
    name ∈ Table.names (Table.merge before own) ↔
      name ∈ Table.names before ∨ name ∈ Table.names own := by
  rw [Table.names_merge _ hown.nodup, List.mem_append, List.mem_filter, decide_eq_true_eq]
  by_cases hname : name ∈ Table.names before <;> simp [hname]

/-- What was there before under another spelling of a name is found wherever the name is not spelled
as what overrides it. -/
theorem find?_merge_of_respells (hbefore : before.CaseDistinct) (hown : own.CaseDistinct)
    (hname : (name, value) ∈ own) (hother : (other, old) ∈ before)
    (hrespells : before.Respells name other) (hsame : sameName spelling name = true)
    (hspelling : spelling ≠ name) :
    Headers.find? (Table.merge before own) spelling = some old := by
  obtain ⟨hmem, hlike, hne⟩ := hrespells
  have hlikes : sameName spelling other = true :=
    sameName_trans hsame (by rwa [sameName_comm])
  -- The request has neither of the two spellings, so both are looked up in what was there before.
  have hnew : ∀ spelled, sameName spelled name = true → spelled ≠ name →
      spelled ∉ Table.names own := fun spelled hspelled hnot hmem =>
    hnot (hown.eq_of_sameName (mem_names_of_mem hname) hmem hspelled)
  have hfirst : (Table.names (Table.merge before own)).find? (sameName · spelling) =
      some other := by
    rw [Table.names_merge _ hown.nodup, List.find?_append,
      find?_names_of_unique hmem (fun _ => hbefore.eq_of_sameName hmem) hlikes, Option.some_or]
  rw [find?_of_first (Table.nodup_merge hbefore.nodup own) hfirst ?_, Table.get?_merge,
    Table.get?_reverse hown.nodup, Table.get?_eq_none_iff.mpr (hnew other hlike hne),
    Option.none_or, Table.get?_of_mem hbefore.nodup hother]
  intro hexact
  rcases (mem_names_merge hown).mp hexact with hold | hmine
  · exact hbefore.eq_of_sameName hmem hold hlikes
  · exact absurd hmine (hnew spelling hsame hspelling)

/-- **Headers that are merged by the spelling of their names**, where no table spells a name in two
ways. -/
theorem overrides_merge (hbefore : before.CaseDistinct) (hown : own.CaseDistinct) :
    Overrides before own (Table.merge before own) where
  caseDistinct_iff := caseDistinct_merge_iff hbefore hown
  find?_eq_own name value hname hnone spelling hsame := by
    refine find?_of_unique (Table.nodup_merge hbefore.nodup own) (mem_merge_of_mem hown hname)
      (fun other hother hlike => ?_) hsame
    rcases (mem_names_merge hown).mp hother with hold | hmine
    · by_contra hne
      exact hnone other ⟨hold, hlike, hne⟩
    · exact hown.eq_of_sameName (mem_names_of_mem hname) hmine hlike
  find?_eq_ite name value other old hname hother hrespells spelling hsame := by
    split
    · next hspelling =>
      rw [hspelling, find?, Table.get?_of_mem (Table.nodup_merge hbefore.nodup own)
        (mem_merge_of_mem hown hname)]
    · next hspelling =>
      exact find?_merge_of_respells hbefore hown hname hother hrespells hsame hspelling

end RequestScript.Headers
