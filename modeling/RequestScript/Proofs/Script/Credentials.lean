import Mathlib.Data.List.Forall2
import RequestScript.Script.Document
import RequestScript.Script.Lookup
import RequestScript.Script.Source
import RequestScript.Proofs.Variables.Fixed

/-!
# Scripts that differ in credentials

Two scripts are alike if they differ in nothing but the literal values of `authorization` headers,
in requests or in configuration blocks. The defaults of alike configuration blocks make alike
requests of alike ones, so that the difference stays where it is when a script is put together.
-/

namespace RequestScript

open List (Forall₂)

namespace Headers

/-- Whether a header of this name authorises. -/
def IsCredential (name : String) : Prop :=
  Text.lowercased name = "authorization"

instance (name : String) : Decidable (IsCredential name) :=
  inferInstanceAs (Decidable (_ = _))

/-- Two headers of one name have one value, or authorise with two literal values. -/
structure EntryAlike (entry other : String × String) : Prop where
  name_eq : entry.1 = other.1
  value : entry.2 = other.2 ∨ IsCredential entry.1 ∧ IsLiteral entry.2 ∧ IsLiteral other.2

/-- Headers of the same names in the same order, which differ in literal credentials only. -/
def Alike (headers others : Headers) : Prop :=
  Forall₂ EntryAlike headers others

theorem EntryAlike.refl (entry : String × String) : EntryAlike entry entry :=
  ⟨rfl, .inl rfl⟩

theorem Alike.refl (headers : Headers) : Alike headers headers :=
  List.forall₂_same.mpr fun entry _ => .refl entry

variable {headers others more mores : Headers} {entry other : String × String}

/-- An entry that is set in the one table and an alike entry that is set in the other. -/
theorem Alike.set (h : Alike headers others) (hentry : EntryAlike entry other) :
    Alike (Table.set headers entry.1 entry.2) (Table.set others other.1 other.2) := by
  induction h with
  | nil => exact .cons hentry .nil
  | @cons first last rest lasts hfirst hrest ih =>
    rw [Table.set, Table.set, ← hfirst.name_eq, ← hentry.name_eq]
    split
    · next hname => exact .cons ⟨rfl, hname ▸ hentry.value⟩ hrest
    · exact .cons ⟨rfl, hfirst.value⟩ (hentry.name_eq ▸ ih)

theorem Alike.merge (h : Alike headers others) (hmore : Alike more mores) :
    Alike (Table.merge headers more) (Table.merge others mores) := by
  induction hmore generalizing headers others with
  | nil => exact h
  | cons hentry _ ih => exact ih (h.set hentry)

end Headers

/-- Configuration blocks that differ in nothing but literal credentials. -/
structure ConfigBlock.Alike (block other : ConfigBlock) : Prop where
  eq : other = { block with headers := other.headers }
  headers : block.headers.Alike other.headers

/-- Requests that differ in nothing but literal credentials, those of their configuration blocks
included. -/
structure Request.Alike (request other : Request) : Prop where
  eq : other = { request with headers := other.headers, config := other.config }
  headers : request.headers.Alike other.headers
  config : Option.Rel ConfigBlock.Alike request.config other.config

/-- Scripts that differ in nothing but literal credentials. -/
structure Document.Alike (document other : Document) : Prop where
  requests : Forall₂ Request.Alike document.requests other.requests
  configs : Forall₂ ConfigBlock.Alike document.configs other.configs
  collection : document.collection = other.collection
  tags : document.tags = other.tags

theorem ConfigBlock.Alike.collection_eq {block other : ConfigBlock} (h : block.Alike other) :
    block.collection = other.collection := by
  rw [h.eq]

theorem Request.Alike.id_eq {request other : Request} (h : request.Alike other) :
    request.id = other.id := by
  rw [h.eq]

theorem Request.Alike.name_eq {request other : Request} (h : request.Alike other) :
    request.name = other.name := by
  rw [h.eq]

section Choice

variable {α : Type} {Alike : α → α → Prop}

/-- What is missing in one place is missing in the other. -/
theorem cases_of_rel {x y : Option α} (h : Option.Rel Alike x y) :
    x = none ∧ y = none ∨ ∃ a b, x = some a ∧ y = some b ∧ Alike a b := by
  cases h with
  | none => exact .inl ⟨rfl, rfl⟩
  | some halike => exact .inr ⟨_, _, rfl, rfl, halike⟩

/-- Of alike lists the first items with a property are alike, if alike items have it together. -/
theorem rel_find? {p : α → Bool} (hp : ∀ x y, Alike x y → p x = p y) {xs ys : List α}
    (h : Forall₂ Alike xs ys) : Option.Rel Alike (xs.find? p) (ys.find? p) := by
  induction h with
  | nil => exact .none
  | @cons x y xs ys hxy _ ih =>
    rw [List.find?_cons, List.find?_cons, ← hp x y hxy]
    split
    · exact .some hxy
    · exact ih

end Choice

namespace Request

variable {requests others : List Request}

theorem rel_requestFind? (h : Forall₂ Alike requests others) (id : String) :
    Option.Rel Alike (find? requests id) (find? others id) :=
  rel_find? (fun _ _ halike => by rw [halike.id_eq]) h

theorem rel_select? (h : Forall₂ Alike requests others) (id name : Option String) :
    Option.Rel Alike (select? requests id name) (select? others id name) := by
  unfold select?
  split
  · exact rel_requestFind? h _
  · exact rel_find? (fun _ _ halike => by rw [halike.name_eq]) h
  · cases h with
    | nil => exact .none
    | cons hfirst _ => exact .some hfirst

end Request

namespace Document

variable {configs blocks : List ConfigBlock} {request other : Request}

theorem rel_configFor? (hconfigs : Forall₂ ConfigBlock.Alike configs blocks)
    (h : request.Alike other) :
    Option.Rel ConfigBlock.Alike (configFor? configs request) (configFor? blocks other) := by
  have hcollection : request.collection = other.collection := by rw [h.eq]
  have hgeneral := rel_find? (p := fun block : ConfigBlock => block.collection.isNone)
    (fun _ _ halike => by rw [halike.collection_eq]) hconfigs
  unfold configFor?
  rw [← hcollection]
  cases request.collection with
  | none => exact hgeneral
  | some name =>
    have hown := rel_find? (p := fun block : ConfigBlock => block.collection == some name)
      (fun _ _ halike => by rw [halike.collection_eq]) hconfigs
    rw [Option.bind_some, Option.bind_some]
    rcases cases_of_rel hown with ⟨hnone, hmissing⟩ | ⟨block, more, hsome, hfound, halike⟩
    · rw [hnone, hmissing]
      exact hgeneral
    · rw [hsome, hfound]
      exact .some halike

/-- The defaults of alike blocks make alike requests of alike ones. -/
theorem applyConfig_alike {block more : ConfigBlock} (hblock : block.Alike more)
    (h : request.Alike other) : (applyConfig block request).Alike (applyConfig more other) := by
  refine ⟨?_, hblock.headers.merge h.headers, .some hblock⟩
  rw [h.eq, hblock.eq]
  rfl

theorem resolveConfig_alike (hconfigs : Forall₂ ConfigBlock.Alike configs blocks)
    (h : request.Alike other) :
    (resolveConfig configs request).Alike (resolveConfig blocks other) := by
  unfold resolveConfig
  rcases cases_of_rel (rel_configFor? hconfigs h) with
    ⟨hnone, hmissing⟩ | ⟨block, more, hsome, hfound, halike⟩
  · rw [hnone, hmissing]
    exact h
  · rw [hsome, hfound]
    exact applyConfig_alike halike h

theorem applyDefaults_alike (h : request.Alike other) (collection : Option String)
    (tags : List String) :
    (applyDefaults collection tags request).Alike (applyDefaults collection tags other) := by
  refine ⟨?_, h.headers, h.config⟩
  rw [h.eq]
  rfl

/-- Scripts whose requests and configuration blocks are alike before they are put together. -/
theorem ofReading_alike {reading other : Reading} {count : Nat}
    (hrequests : Forall₂ Request.Alike (reading.closeBefore count).requests
      (other.closeBefore count).requests)
    (hconfigs : Forall₂ ConfigBlock.Alike (reading.closeBefore count).configs
      (other.closeBefore count).configs)
    (hcollection : (reading.closeBefore count).collection = (other.closeBefore count).collection)
    (htags : (reading.closeBefore count).tags = (other.closeBefore count).tags) :
    (ofReading reading count).Alike (ofReading other count) := by
  have hblocks := List.rel_reverse hconfigs
  refine ⟨?_, hblocks, hcollection, htags⟩
  unfold ofReading
  dsimp only
  rw [← hcollection, ← htags]
  refine List.rel_map (fun request more halike => ?_) (List.rel_reverse hrequests)
  exact resolveConfig_alike hblocks (applyDefaults_alike halike _ _)

/-- Alike scripts that are read from one file. -/
theorem withFile_alike {document more : Document} (h : document.Alike more) (file : String) :
    (document.withFile file).Alike (more.withFile file) := by
  refine ⟨List.rel_map (fun request other halike => ?_) h.requests, h.configs, h.collection, h.tags⟩
  refine ⟨?_, halike.headers, halike.config⟩
  rw [halike.eq]

end Document

end RequestScript
