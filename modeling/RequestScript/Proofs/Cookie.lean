import Mathlib.Data.List.Forall2
import RequestScript.Cookie
import RequestScript.Proofs.Text.Blank

/-!
# Cookies of header values

A header value sets a cookie where something stands before the first equals sign of its first part.
The name, the value and the attributes of the cookie are the parts without the blanks around them.
A cookie that has a name is read back from its text; one that is named by nothing but blanks has the
empty name, and its text sets no cookie any more.
-/

namespace RequestScript

open Text
open List (Forall₂)

namespace Cookie

/-- A cookie as a header value: the name and the value around an equals sign, and then the
attributes, if there are any. -/
def text (cookie : Cookie) : String :=
  cookie.name ++ "=" ++ cookie.value ++
    if cookie.attributes = "" then "" else "; " ++ cookie.attributes

/-- The text before the first equals sign of what stands before the first semicolon. -/
def nameText? (header : String) : Option (List Char) :=
  let pair := header.toList.takeWhile (· != ';')
  if '=' ∈ pair then some (pair.takeWhile (· != '=')) else none

/-- Whether a header value has a name that is not blank. -/
def isNamed (header : String) : Bool :=
  (nameText? header).any fun name => trim name ≠ []

/-- Whether a header value has a name of nothing but blanks. -/
def isNamedByBlanks (header : String) : Bool :=
  (nameText? header).any fun name => name ≠ [] ∧ trim name = []

/-- The cookie of a name, a value and attributes, each of them without the blanks around it. -/
def ofParts (name value : List Char) (attributes : List (List Char)) : Cookie where
  name := String.ofList (trim name)
  value := String.ofList (trim value)
  attributes := String.ofList (join [';', ' '] (attributes.map trim))

/-- A text is written with a name and a value around an equals sign, and then attributes, each
behind a semicolon. -/
structure IsWritten (text name value : List Char) (attributes : List (List Char)) : Prop where
  /-- The parts stand between semicolons. -/
  eq_join : text = join [';'] ((name ++ '=' :: value) :: attributes)
  /-- The equals sign is the first one. -/
  not_mem_name : '=' ∉ name
  /-- No part has a semicolon in it. -/
  not_mem_parts : ∀ part ∈ (name ++ '=' :: value) :: attributes, ';' ∉ part

/-- A header value sets the cookie of its parts. -/
inductive Sets (header : String) : Cookie → Prop
  | written {name value : List Char} {attributes : List (List Char)} :
      IsWritten header.toList name value attributes → Sets header (ofParts name value attributes)

/-! ## Reading a header value -/

section Parts

variable {header : String} {name value : List Char} {attributes : List (List Char)}

theorem IsWritten.pieces_eq (h : IsWritten header.toList name value attributes) :
    pieces ';' header.toList = (name ++ '=' :: value) :: attributes := by
  rw [h.eq_join, pieces_join (List.cons_ne_nil _ _) h.not_mem_parts]

/-- What stands before the first semicolon is the first piece. -/
theorem takeWhile_eq_of_pieces {separator : Char} {cs piece : List Char} {more : List (List Char)}
    (h : pieces separator cs = piece :: more) : cs.takeWhile (· != separator) = piece := by
  have hfirst := pieces_eq_cons separator cs
  rw [h] at hfirst
  exact (List.cons.inj hfirst).1.symm

theorem IsWritten.nameText?_eq (h : IsWritten header.toList name value attributes) :
    nameText? header = some name := by
  have hname : (name ++ '=' :: value).takeWhile (· != '=') = name := by
    have hkept : ∀ c ∈ name, (c != '=') = true := fun c hc =>
      bne_iff_ne.mpr fun heq => h.not_mem_name (heq ▸ hc)
    rw [List.takeWhile_append_of_pos hkept]
    simp
  rw [nameText?, takeWhile_eq_of_pieces h.pieces_eq, if_pos (by simp), hname]

/-- A header value sets the cookie of its parts unless nothing stands before the equals sign. -/
theorem IsWritten.ofHeader?_eq (h : IsWritten header.toList name value attributes) :
    ofHeader? header = if name = [] then none else some (ofParts name value attributes) := by
  unfold ofHeader?
  simp only [h.pieces_eq, cut?_append h.not_mem_name]
  cases name with
  | nil => rfl
  | cons c rest => rfl

/-- A header value without an equals sign before its first semicolon sets no cookie; any other one
has parts. -/
theorem cases_header (header : String) :
    nameText? header = none ∧ ofHeader? header = none ∨
      ∃ name value attributes, IsWritten header.toList name value attributes := by
  obtain ⟨pair, attributes, hpieces⟩ :=
    List.exists_cons_of_ne_nil (pieces_ne_nil ';' header.toList)
  by_cases hmem : '=' ∈ pair
  · right
    obtain ⟨name, value, rfl, hname⟩ := List.eq_append_cons_of_mem hmem
    refine ⟨name, value, attributes, ?_, hname, fun part hpart => ?_⟩
    · rw [← hpieces, join_pieces]
    · rw [← hpieces] at hpart
      exact not_mem_of_mem_pieces hpart
  · left
    constructor
    · rw [nameText?, takeWhile_eq_of_pieces hpieces, if_neg hmem]
    · unfold ofHeader?
      simp only [hpieces, cut?_eq_none hmem]

theorem isNamed_of_isWritten (h : IsWritten header.toList name value attributes) :
    isNamed header = true ↔ (ofParts name value attributes).name ≠ "" := by
  simp [isNamed, h.nameText?_eq, ofParts, ← String.toList_inj]

theorem isNamedByBlanks_of_isWritten (h : IsWritten header.toList name value attributes) :
    isNamedByBlanks header = true ↔ name ≠ [] ∧ (ofParts name value attributes).name = "" := by
  simp [isNamedByBlanks, h.nameText?_eq, ofParts, ← String.toList_inj]

/-- A header value with a name, be it blank, sets a cookie, and no other header value does. -/
theorem ofHeader?_cases (header : String) :
    (isNamed header || isNamedByBlanks header) = false ∧ ofHeader? header = none ∨
      ∃ cookie, (isNamed header || isNamedByBlanks header) = true ∧
        ofHeader? header = some cookie ∧ Sets header cookie ∧
        (cookie.name = "" ↔ isNamedByBlanks header = true) := by
  rcases cases_header header with ⟨hname, hnone⟩ | ⟨name, value, attributes, h⟩
  · exact .inl ⟨by simp [isNamed, isNamedByBlanks, hname], hnone⟩
  · by_cases hempty : name = []
    · have hnot : trim ([] : List Char) = [] := rfl
      refine .inl ⟨?_, by rw [h.ofHeader?_eq, if_pos hempty]⟩
      simp [isNamed, isNamedByBlanks, h.nameText?_eq, hempty, hnot]
    · have hblanks := isNamedByBlanks_of_isWritten h
      refine .inr ⟨_, ?_, by rw [h.ofHeader?_eq, if_neg hempty], .written h, ?_⟩
      · rw [Bool.or_eq_true, isNamed_of_isWritten h, hblanks]
        by_cases hname : (ofParts name value attributes).name = ""
        · exact .inr ⟨hempty, hname⟩
        · exact .inl hname
      · rw [hblanks]
        exact ⟨fun hname => ⟨hempty, hname⟩, And.right⟩

end Parts

/-! ## Reading the text of a cookie -/

/-- Joined by a semicolon and a space, texts are pieces that each have a space before them. -/
theorem join_cons_map_space (first : List Char) {texts : List (List Char)} (hne : texts ≠ []) :
    join [';'] (first :: texts.map (' ' :: ·)) = first ++ ';' :: ' ' :: join [';', ' '] texts := by
  induction texts generalizing first with
  | nil => exact absurd rfl hne
  | cons text rest ih =>
    have hcons (next : List Char) (more : List (List Char)) :
        join [';'] (first :: next :: more) = first ++ [';'] ++ join [';'] (next :: more) := rfl
    cases rest with
    | nil => simp [join]
    | cons next more =>
      rw [List.map_cons, hcons, ih (' ' :: text) (List.cons_ne_nil next more)]
      simp [join]

section Text

variable {name value : List Char} {attributes : List (List Char)}

/-- The text of a cookie is written with its own parts, of which none is left that is empty
altogether. -/
theorem exists_isWritten_text (hname : '=' ∉ name)
    (hparts : ∀ part ∈ (name ++ '=' :: value) :: attributes, ';' ∉ part) :
    ∃ more : List (List Char),
      IsWritten (ofParts name value attributes).text.toList (trim name) (trim value) more ∧
        join [';', ' '] (more.map trim) = join [';', ' '] (attributes.map trim) := by
  obtain ⟨hpair, hattributes⟩ := List.forall_mem_cons.mp hparts
  simp only [List.mem_append, List.mem_cons, not_or] at hpair
  have hfirst : ';' ∉ trim name ++ '=' :: trim value := by
    simp only [List.mem_append, List.mem_cons, not_or]
    exact ⟨fun hmem => hpair.1 (trim_subset _ hmem), by decide,
      fun hmem => hpair.2.2 (trim_subset _ hmem)⟩
  have hkept : '=' ∉ trim name := fun hmem => hname (trim_subset _ hmem)
  by_cases hempty : join [';', ' '] (attributes.map trim) = []
  · refine ⟨[], ⟨?_, hkept, List.forall_mem_singleton.mpr hfirst⟩, ?_⟩
    · simp [text, ofParts, hempty, join]
    · rw [hempty]
      rfl
  · have hne : attributes.map trim ≠ [] := by
      rintro hnil
      exact hempty (by rw [hnil]; rfl)
    refine ⟨(attributes.map trim).map (' ' :: ·), ⟨?_, hkept, List.forall_mem_cons.mpr
      ⟨hfirst, ?_⟩⟩, ?_⟩
    · rw [join_cons_map_space _ hne]
      simp [text, ofParts, ← String.toList_inj, hempty]
    · intro part hpart
      obtain ⟨_, htrimmed, rfl⟩ := List.mem_map.mp hpart
      obtain ⟨own, hmem, rfl⟩ := List.mem_map.mp htrimmed
      simp only [List.mem_cons, not_or]
      exact ⟨by decide, fun hc => hattributes own hmem (trim_subset _ hc)⟩
    · have hspace : isBlank ' ' = true := by decide
      have hsame : ((attributes.map trim).map (' ' :: ·)).map trim = attributes.map trim := by
        simp [Function.comp_def, trim_cons_of_isBlank hspace, trim_trim]
      rw [hsame]

/-- A cookie is read back from its text if it has a name. -/
theorem Sets.ofHeader?_text {header : String} {cookie : Cookie} (h : Sets header cookie) :
    ofHeader? cookie.text = if cookie.name = "" then none else some cookie := by
  obtain ⟨h⟩ := h
  obtain ⟨more, hwritten, hmore⟩ := exists_isWritten_text h.not_mem_name h.not_mem_parts
  rw [hwritten.ofHeader?_eq]
  simp only [ofParts, trim_trim, hmore, ← String.toList_inj]
  simp

end Text

/-! ## Header values -/

/-- What is known of a header value that sets a cookie. -/
theorem of_ofHeader? {header : String} {cookie : Cookie} (h : ofHeader? header = some cookie) :
    (isNamed header || isNamedByBlanks header) = true ∧ Sets header cookie ∧
      (cookie.name = "" ↔ isNamedByBlanks header = true) := by
  rcases ofHeader?_cases header with ⟨-, hnone⟩ | ⟨_, hnamed, hsome, hsets, hempty⟩
  · rw [hnone] at h
    cases h
  · obtain rfl := Option.some.inj (hsome.symm.trans h)
    exact ⟨hnamed, hsets, hempty⟩

/-- The header values that have a name set one cookie each, in order. -/
theorem forall₂_sets_ofHeaders (headers : List String) :
    Forall₂ Sets (headers.filter fun header => isNamed header || isNamedByBlanks header)
      (ofHeaders headers) := by
  induction headers with
  | nil => exact .nil
  | cons header rest ih =>
    rcases ofHeader?_cases header with ⟨hnot, hnone⟩ | ⟨cookie, hnamed, hsome, hsets, -⟩
    · rw [List.filter_cons, hnot, ofHeaders, List.filterMap_cons_none hnone]
      exact ih
    · rw [List.filter_cons, hnamed, ofHeaders, List.filterMap_cons_some hsome]
      exact .cons hsets ih

/-- **Cookies of header values.** The header values that have a name set one cookie each, in order,
and the other ones set none; the name, the value and the attributes of a cookie are the parts of its
header value without the blanks around them. No cookie has the empty name unless a name is nothing
but blanks, and every cookie that has a name is read back from its text. -/
theorem ofHeaders_sets (headers : List String) :
    Forall₂ Sets (headers.filter fun header => isNamed header || isNamedByBlanks header)
        (ofHeaders headers) ∧
      ((∀ cookie ∈ ofHeaders headers, cookie.name ≠ "") ↔
        ∀ header ∈ headers, isNamedByBlanks header = false) ∧
      ∀ cookie ∈ ofHeaders headers,
        ofHeaders [cookie.text] = if cookie.name = "" then [] else [cookie] := by
  refine ⟨forall₂_sets_ofHeaders headers, ⟨fun hnames header hmem => ?_, fun hheaders => ?_⟩, ?_⟩
  · rw [Bool.eq_false_iff]
    intro hblanks
    rcases ofHeader?_cases header with ⟨hnot, -⟩ | ⟨cookie, -, hsome, -, hempty⟩
    · rw [hblanks, Bool.or_true] at hnot
      cases hnot
    · exact hnames cookie (List.mem_filterMap.mpr ⟨header, hmem, hsome⟩) (hempty.mpr hblanks)
  · intro cookie hmem hempty
    obtain ⟨header, hheader, hsome⟩ := List.mem_filterMap.mp hmem
    have hblanks := (of_ofHeader? hsome).2.2.mp hempty
    rw [hheaders header hheader] at hblanks
    cases hblanks
  · intro cookie hmem
    obtain ⟨header, -, hsome⟩ := List.mem_filterMap.mp hmem
    have hread := (of_ofHeader? hsome).2.1.ofHeader?_text
    by_cases hempty : cookie.name = ""
    · rw [if_pos hempty] at hread ⊢
      rw [ofHeaders, List.filterMap_cons_none hread, List.filterMap_nil]
    · rw [if_neg hempty] at hread ⊢
      rw [ofHeaders, List.filterMap_cons_some hread, List.filterMap_nil]

/-- Of these five header values two have a name that is not blank. -/
theorem ofHeaders_sets_five :
    let headers := ["sid=a=b ; Path=/;;x", "garbage; a=b", " t = ;", "=v", "\t=w"]
    ofHeaders headers =
        [⟨"sid", "a=b", "Path=/; ; x"⟩, ⟨"t", "", ""⟩, ⟨"", "w", ""⟩] ∧
      headers.map isNamed = [true, false, true, false, false] ∧
      Forall₂ Sets (headers.filter fun header => isNamed header || isNamedByBlanks header)
        (ofHeaders headers) ∧
      ofHeaders [(⟨"sid", "a=b", "Path=/; ; x"⟩ : Cookie).text] =
        [⟨"sid", "a=b", "Path=/; ; x"⟩] := by
  intro headers
  have hcookies : ofHeaders headers =
      [⟨"sid", "a=b", "Path=/; ; x"⟩, ⟨"t", "", ""⟩, ⟨"", "w", ""⟩] := by decide
  obtain ⟨hsets, -, hread⟩ := ofHeaders_sets headers
  refine ⟨hcookies, by decide, hsets, ?_⟩
  exact hread _ (hcookies ▸ List.mem_cons_self)

/-- A cookie that is named by a blank has the empty name. -/
theorem ofHeaders_blank_name :
    ¬∀ headers, ∀ cookie ∈ ofHeaders headers, cookie.name ≠ "" := by
  intro hnames
  have hcookies : ofHeaders [" =x"] = [⟨"", "x", ""⟩] := by decide
  exact hnames [" =x"] _ (hcookies ▸ List.mem_singleton_self _) rfl

end Cookie

end RequestScript
