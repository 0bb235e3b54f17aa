import RequestScript.Script.Lookup
import Mathlib.Tactic.ByContra

/-!
# Looking up requests

What it means for references that nothing is missing, and for identifiers that none belongs to
several requests: every reference finds a request, and every request is found under its own
identifier.
-/

namespace RequestScript

theorem Directive.mem_dedupe (items : List String) (item : String) :
    item ∈ Directive.dedupe items ↔ item ∈ items := by
  have hfold : ∀ kept : List String,
      item ∈ items.foldl (fun kept tag => if kept.contains tag then kept else kept ++ [tag]) kept ↔
        item ∈ kept ∨ item ∈ items := by
    induction items with
    | nil => simp
    | cons first rest ih =>
      intro kept
      rw [List.foldl_cons, ih, List.mem_cons]
      split
      · next hkept =>
        have hmem : first ∈ kept := by simpa using hkept
        constructor
        · rintro (h | h)
          · exact .inl h
          · exact .inr (.inr h)
        · rintro (h | rfl | h)
          · exact .inl h
          · exact .inl hmem
          · exact .inr h
      · rw [List.mem_append, List.mem_singleton, or_assoc]
  simpa [Directive.dedupe] using hfold []

namespace Request

variable {requests : List Request} {request : Request} {id : String}

theorem mem_of_find? (h : find? requests id = some request) : request ∈ requests :=
  List.mem_of_find?_eq_some h

theorem id_of_find? (h : find? requests id = some request) : request.id = some id := by
  simpa using List.find?_some h

/-- Requests that are each found under some identifier are the ones found under a list of them. -/
theorem exists_ids_of_find? {found : List Request}
    (h : ∀ request ∈ found, ∃ id, find? requests id = some request) :
    ∃ ids : List String,
      found.map some = ids.map (find? requests) ∧ found.map (·.id) = ids.map some := by
  induction found with
  | nil => exact ⟨[], rfl, rfl⟩
  | cons request rest ih =>
    obtain ⟨id, hfind⟩ := h request (by simp)
    obtain ⟨ids, hfound, hids⟩ := ih fun x hx => h x (by simp [hx])
    refine ⟨id :: ids, ?_, ?_⟩
    · rw [List.map_cons, List.map_cons, hfound, hfind]
    · rw [List.map_cons, List.map_cons, hids, id_of_find? hfind]

/-- Where no reference is missing, each one finds a request. -/
theorem find?_isSome_of_missingReferences (h : missingReferences requests = [])
    (hmem : request ∈ requests) (hid : id ∈ request.pre) : (find? requests id).isSome := by
  by_contra hnone
  have hmissing : (request, id) ∈ missingReferences requests := by
    refine List.mem_flatMap.mpr ⟨request, hmem, List.mem_map.mpr ⟨id, ?_, rfl⟩⟩
    exact List.mem_filter.mpr ⟨hid, by simpa using hnone⟩
  rw [h] at hmissing
  exact List.not_mem_nil hmissing

/-- Where no identifier belongs to several requests, each request is found under its own. -/
theorem find?_eq_of_duplicates (h : duplicates requests = []) (hmem : request ∈ requests)
    (hid : request.id = some id) : find? requests id = some request := by
  have hids : id ∈ ids requests :=
    (Directive.mem_dedupe _ id).mpr (List.mem_filterMap.mpr ⟨request, hmem, hid⟩)
  have hlength : (withId requests id).length ≤ 1 := by
    by_contra hlong
    have hduplicate : (id, withId requests id) ∈ duplicates requests :=
      List.mem_filter.mpr ⟨List.mem_map.mpr ⟨id, hids, rfl⟩, by simpa using hlong⟩
    rw [h] at hduplicate
    exact List.not_mem_nil hduplicate
  have hown : request ∈ withId requests id := List.mem_filter.mpr ⟨hmem, by simp [hid]⟩
  cases hfind : find? requests id with
  | none =>
    have hdiffers := List.find?_eq_none.mp hfind request hmem
    simp [hid] at hdiffers
  | some found =>
    have hfound : found ∈ withId requests id :=
      List.mem_filter.mpr ⟨mem_of_find? hfind, by simp [id_of_find? hfind]⟩
    obtain ⟨only, honly⟩ : ∃ only, withId requests id = [only] :=
      List.length_eq_one_iff.mp (Nat.le_antisymm hlength (List.length_pos_of_mem hown))
    rw [honly, List.mem_singleton] at hown hfound
    rw [hfound, hown]

end Request

end RequestScript
