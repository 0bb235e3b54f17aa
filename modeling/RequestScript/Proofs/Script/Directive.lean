import Mathlib.Data.List.Nodup
import RequestScript.Proofs.Assertion.WellFormed
import RequestScript.Proofs.Script.Lookup
import RequestScript.Script.Line

/-!
# What directives say

A directive that says something says it in the right form: identifiers have six letters and digits,
tags are distinct texts, a capture names a variable and a query, an assertion is well formed. The
same holds of every line of a request.
-/

namespace RequestScript

open Text

/-- A capture that some directive spells. -/
structure Capture.WellFormed (capture : Capture) : Prop where
  /-- The scope is one of those that there are. -/
  scope : capture.scope ∈ Scope.all
  /-- The name is made of word characters and dots. -/
  variableName : isAll (fun c => isWord c || c == '.') capture.variableName.toList = true
  /-- The query is not blank. -/
  query : Stripped capture.query

namespace Directive

/-! ## Tags -/

theorem dedupe_concat (tags : List String) (tag : String) :
    dedupe (tags ++ [tag]) = if tag ∈ tags then dedupe tags else dedupe tags ++ [tag] := by
  have hlast : dedupe (tags ++ [tag]) =
      if (dedupe tags).contains tag then dedupe tags else dedupe tags ++ [tag] := by
    rw [dedupe, List.foldl_append]
    rfl
  simp only [hlast, List.contains_iff_mem, mem_dedupe]

/-- No tag is kept twice. -/
theorem nodup_dedupe (tags : List String) : (dedupe tags).Nodup := by
  induction tags using List.reverseRecOn with
  | nil => exact List.nodup_nil
  | append_singleton tags tag ih =>
    rw [dedupe_concat]
    split
    · exact ih
    · next hnew =>
      rw [← mem_dedupe] at hnew
      exact List.nodup_append_comm.mpr (List.nodup_cons.mpr ⟨hnew, ih⟩)

/-- Distinct tags are all kept. -/
theorem dedupe_eq_self {tags : List String} (h : tags.Nodup) : dedupe tags = tags := by
  induction tags using List.reverseRecOn with
  | nil => rfl
  | append_singleton tags tag ih =>
    obtain ⟨hnew, hrest⟩ := List.nodup_cons.mp (List.nodup_append_comm.mp h)
    have hmem : tag ∉ tags := hnew
    rw [dedupe_concat, if_neg hmem, ih hrest]

/-- Tags that come first are kept before those that come later. -/
theorem dedupe_isPrefix_append (front back : List String) :
    dedupe front <+: dedupe (front ++ back) := by
  induction back using List.reverseRecOn with
  | nil => simp
  | append_singleton back tag ih =>
    rw [← List.append_assoc, dedupe_concat]
    split
    · exact ih
    · exact ih.trans (List.prefix_append _ _)

theorem stripped_of_mem_splitTags {cs : List Char} : ∀ tag ∈ splitTags cs, Stripped tag := by
  intro tag hmem
  obtain ⟨piece, hpiece, htag⟩ := List.mem_filterMap.mp hmem
  obtain ⟨whole, _, rfl⟩ := List.mem_map.mp hpiece
  split at htag
  · cases htag
  · next hne =>
    obtain rfl := Option.some.inj htag
    exact stripped_ofList_trim fun hnil => hne (List.isEmpty_iff.mpr hnil)

/-! ## Captures -/

theorem stripped_of_afterEquals? {cs value : List Char} (h : afterEquals? cs = some value)
    (hne : value ≠ []) : Stripped (String.ofList value) := by
  unfold afterEquals? at h
  split at h
  · obtain rfl := Option.some.inj h
    exact stripped_ofList_trim hne
  · cases h

/-- A capture is well formed where its name may only have word characters and dots. -/
theorem exists_capture_of_captureOf? {isNameChar : Char → Bool} {scope : Scope} {cs : List Char}
    {directive : Directive} (hname : ∀ c, isNameChar c = true → (isWord c || c == '.') = true)
    (h : captureOf? isNameChar scope cs = some directive) :
    ∃ capture : Capture, directive = .capture capture ∧ capture.WellFormed := by
  unfold captureOf? at h
  dsimp only at h
  split at h
  · next c rest hvalue =>
    split at h
    · cases h
    · next hne =>
      obtain rfl := Option.some.inj h
      refine ⟨_, rfl, scope.mem_all, ?_,
        stripped_of_afterEquals? hvalue (List.cons_ne_nil c rest)⟩
      rw [String.toList_ofList, isAll_iff]
      exact ⟨fun hnil => hne (List.isEmpty_iff.mpr hnil), fun c hc =>
        hname c (List.mem_takeWhile_imp hc)⟩
  · cases h

/-- A directive `@capture` spells a well-formed capture. -/
theorem exists_capture_of_readCapture {cs : List Char} {directive : Directive}
    (h : readCapture cs = some directive) :
    ∃ capture : Capture, directive = .capture capture ∧ capture.WellFormed := by
  rw [readCapture, Option.orElse_eq_or, Option.or_eq_some_iff] at h
  rcases h with hscoped | ⟨_, hplain⟩
  · obtain ⟨scope, _, hscope⟩ := List.exists_of_findSome?_eq_some hscoped
    obtain ⟨rest, _, hcapture⟩ := Option.bind_eq_some_iff.mp hscope
    exact exists_capture_of_captureOf? (fun _ hc => hc) hcapture
  · exact exists_capture_of_captureOf? (fun _ hc => by simp [hc]) hplain

/-! ## Directives and lines -/

/-- The form of what a directive says. -/
def WellFormed : Directive → Prop
  | .id letters | .pre letters => isId letters.toList = true
  | .tags kept => kept.Nodup ∧ ∀ tag ∈ kept, Stripped tag
  | .capture kept => kept.WellFormed
  | .assertion said => said.WellFormed
  | .retry kept => 0 ≤ kept.count
  | _ => True

theorem exists_of_ofText {make : String → Directive} {cs : List Char} {directive : Directive}
    (h : ofText make cs = some directive) : ∃ text, directive = make text := by
  unfold ofText at h
  split at h
  · cases h
  · exact ⟨_, (Option.some.inj h).symm⟩

theorem exists_of_ofId {make : String → Directive} {cs : List Char} {directive : Directive}
    (h : ofId make cs = some directive) :
    ∃ letters, directive = make letters ∧ isId letters.toList = true := by
  unfold ofId at h
  split at h
  · next hid =>
    refine ⟨_, (Option.some.inj h).symm, ?_⟩
    rw [String.toList_ofList]
    exact hid
  · cases h

theorem exists_of_readRetry {cs : List Char} {directive : Directive}
    (h : readRetry cs = .ok (some directive)) :
    ∃ (count : Nat) (delay : Option Nat), directive = .retry { count, delay } := by
  unfold readRetry at h
  dsimp only at h
  split at h
  · cases h
  split at h <;>
  · obtain ⟨delay, _, hcount⟩ := bind_eq_ok_iff.mp h
    obtain ⟨count, _, hdirective⟩ := bind_eq_ok_iff.mp hcount
    exact ⟨count, delay, (Option.some.inj (Except.ok.inj hdirective)).symm⟩

theorem exists_of_readTimeout {cs : List Char} {directive : Directive}
    (h : readTimeout cs = .ok (some directive)) : ∃ n, directive = .timeout n := by
  unfold readTimeout at h
  dsimp only at h
  split at h
  · cases h
  · obtain ⟨n, _, hdirective⟩ := bind_eq_ok_iff.mp h
    exact ⟨n, (Option.some.inj (Except.ok.inj hdirective)).symm⟩

theorem exists_of_readHeader {cs : List Char} {directive : Directive}
    (h : readHeader cs = some directive) : ∃ key value, directive = .header key value := by
  unfold readHeader at h
  split at h
  · dsimp only at h
    split at h
    · cases h
    · exact ⟨_, _, (Option.some.inj h).symm⟩
  · cases h

theorem exists_of_readForm {cs : List Char} {directive : Directive}
    (h : readForm cs = some directive) : ∃ kept, directive = .form kept := by
  obtain ⟨⟨key, value⟩, _, rfl⟩ := Option.map_eq_some_iff.mp h
  dsimp only
  split <;> exact ⟨_, rfl⟩

/-- **A directive says what it says in the right form.** -/
theorem wellFormed_read {name : String} {argument : List Char} {directive : Directive}
    (h : read name argument = .ok (some directive)) : directive.WellFormed := by
  unfold read at h
  split at h
  case h_1 =>
    obtain ⟨text, rfl⟩ := exists_of_ofText (Except.ok.inj h)
    trivial
  case h_2 =>
    obtain ⟨letters, rfl, hletters⟩ := exists_of_ofId (Except.ok.inj h)
    exact hletters
  case h_3 =>
    obtain ⟨text, rfl⟩ := exists_of_ofText (Except.ok.inj h)
    trivial
  case h_4 =>
    obtain ⟨text, rfl⟩ := exists_of_ofText (Except.ok.inj h)
    trivial
  case h_5 =>
    dsimp only at h
    split at h
    · cases h
    · obtain rfl := Option.some.inj (Except.ok.inj h)
      refine ⟨nodup_dedupe _, fun tag hmem => ?_⟩
      exact stripped_of_mem_splitTags tag ((mem_dedupe _ tag).mp hmem)
  case h_6 =>
    obtain rfl := Option.some.inj (Except.ok.inj h)
    trivial
  case h_7 =>
    obtain ⟨letters, rfl, hletters⟩ := exists_of_ofId (Except.ok.inj h)
    exact hletters
  case h_8 =>
    obtain ⟨count, delay, rfl⟩ := exists_of_readRetry h
    exact Int.natCast_nonneg count
  case h_9 =>
    obtain ⟨n, rfl⟩ := exists_of_readTimeout h
    trivial
  case h_10 =>
    obtain ⟨key, value, rfl⟩ := exists_of_readHeader (Except.ok.inj h)
    trivial
  case h_11 =>
    obtain ⟨capture, rfl, hcapture⟩ := exists_capture_of_readCapture (Except.ok.inj h)
    exact hcapture
  case h_12 =>
    obtain ⟨assertion, hread, rfl⟩ := Option.map_eq_some_iff.mp (Except.ok.inj h)
    exact Assertion.wellFormed_ofChars? hread
  case h_13 =>
    obtain ⟨pair, _, rfl⟩ := Option.map_eq_some_iff.mp (Except.ok.inj h)
    trivial
  case h_14 =>
    obtain ⟨kept, rfl⟩ := exists_of_readForm (Except.ok.inj h)
    trivial
  case h_15 =>
    obtain ⟨text, rfl⟩ := exists_of_ofText (Except.ok.inj h)
    trivial
  case h_16 => cases h

end Directive

namespace ScriptLine

/-- The form of what a line says. -/
def WellFormed : ScriptLine → Prop
  | .directive (some content) => content.WellFormed
  | .method _ url => Stripped url
  | _ => True

/-- The URL of a method line is not blank. -/
theorem stripped_of_methodLine? {cs : List Char} {name url : String}
    (h : methodLine? cs = some (name, url)) : Stripped url := by
  unfold methodLine? at h
  dsimp only at h
  split at h
  · next hline =>
    obtain ⟨_, rfl⟩ := Prod.mk.inj (Option.some.inj h)
    exact stripped_ofList_trim (by simpa using (Bool.and_eq_true_iff.mp hline).2)
  · cases h

/-- A line says what it says in the right form. -/
theorem wellFormed_read {cs : List Char} {said : ScriptLine} (h : read cs = .ok said) :
    said.WellFormed := by
  unfold read at h
  split at h
  · obtain rfl := Except.ok.inj h
    trivial
  split at h
  · next name argument _ =>
    obtain ⟨content, hread, hsaid⟩ := map_eq_ok_iff.mp h
    obtain rfl := hsaid
    cases content with
    | none => trivial
    | some content => exact Directive.wellFormed_read hread
  split at h
  · next hmethod =>
    obtain rfl := Except.ok.inj h
    exact stripped_of_methodLine? hmethod
  · split at h <;>
    · obtain rfl := Except.ok.inj h
      trivial

end ScriptLine

end RequestScript
