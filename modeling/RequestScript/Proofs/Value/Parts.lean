import RequestScript.Value

/-!
# Values inside values

What holds for a value and for every value inside it is one inductive predicate. Its induction goes
from the values inside to the value.
-/

namespace RequestScript.Value

/-- The items of an array, or the values of the fields of an object. -/
def parts : Value → List Value
  | .array items => items
  | .object fields => fields.map (·.2)
  | _ => []

theorem sizeOf_lt_of_mem_parts {value part : Value} (h : part ∈ value.parts) :
    sizeOf part < sizeOf value := by
  cases value with
  | array items =>
    have hitem : sizeOf part < sizeOf items := List.sizeOf_lt_of_mem h
    simp only [array.sizeOf_spec]
    omega
  | object fields =>
    obtain ⟨⟨name, value⟩, hmem, rfl⟩ := List.mem_map.mp h
    have hfield := List.sizeOf_lt_of_mem hmem
    simp only [Prod.mk.sizeOf_spec, object.sizeOf_spec] at hfield ⊢
    omega
  | _ => cases h

/-- What holds for a value where it holds for the values inside it holds for every value. -/
@[elab_as_elim]
theorem inductionOn {motive : Value → Prop} (value : Value)
    (h : ∀ value, (∀ part ∈ value.parts, motive part) → motive value) : motive value :=
  h value fun part hmem =>
    have := sizeOf_lt_of_mem_parts hmem
    inductionOn part h
termination_by sizeOf value

/-- A value has a property, and so has every value inside it. -/
inductive Every (p : Value → Prop) : Value → Prop where
  | intro {value : Value} (here : p value) (inside : ∀ part ∈ value.parts, Every p part) :
      Every p value

variable {p : Value → Prop}

theorem Every.here {value : Value} (h : value.Every p) : p value := by
  obtain ⟨here, -⟩ := h
  exact here

theorem Every.inside {value : Value} (h : value.Every p) : ∀ part ∈ value.parts, part.Every p := by
  obtain ⟨-, inside⟩ := h
  exact inside

theorem every_string_iff {text : String} : (string text).Every p ↔ p (.string text) :=
  ⟨fun h => h.here, fun h => .intro h nofun⟩

theorem every_array_iff {items : List Value} :
    (array items).Every p ↔ p (.array items) ∧ ∀ item ∈ items, item.Every p :=
  ⟨fun h => ⟨h.here, h.inside⟩, fun h => .intro h.1 h.2⟩

theorem every_object_iff {fields : Table Value} :
    (object fields).Every p ↔ p (.object fields) ∧ ∀ field ∈ fields, field.2.Every p := by
  have hparts : (∀ part ∈ (object fields).parts, part.Every p) ↔
      ∀ field ∈ fields, field.2.Every p := List.forall_mem_map
  rw [← hparts]
  exact ⟨fun h => ⟨h.here, h.inside⟩, fun h => .intro h.1 h.2⟩

/-- A field of an object may be given another value with the property, where the object keeps it. -/
theorem Every.object_set {fields : Table Value} (h : (object fields).Every p) {name : String}
    {value : Value} (hvalue : value.Every p) (hobject : p (.object (Table.set fields name value))) :
    (object (Table.set fields name value)).Every p := by
  refine every_object_iff.mpr ⟨hobject, fun field hmem => ?_⟩
  rcases Table.mem_set hmem with hold | rfl
  · exact (every_object_iff.mp h).2 field hold
  · exact hvalue

/-- What is found under a name of an object has the property as well. -/
theorem Every.of_get? {fields : Table Value} (h : (object fields).Every p) {name : String}
    {value : Value} (hvalue : Table.get? fields name = some value) : value.Every p :=
  (every_object_iff.mp h).2 _ (Table.mem_of_get? hvalue)

/-! ## Depth -/

theorem depthOfItems_le_iff {items : List Value} {limit : Nat} :
    depthOfItems items ≤ limit ↔ ∀ item ∈ items, item.depth ≤ limit := by
  induction items with
  | nil => simp [depthOfItems]
  | cons item rest ih => rw [depthOfItems, Nat.max_le, ih, List.forall_mem_cons]

theorem depthOfFields_le_iff {fields : Table Value} {limit : Nat} :
    depthOfFields fields ≤ limit ↔ ∀ field ∈ fields, field.2.depth ≤ limit := by
  induction fields with
  | nil => simp [depthOfFields]
  | cons field rest ih =>
    obtain ⟨name, value⟩ := field
    rw [depthOfFields, depthOfField, Nat.max_le, ih, List.forall_mem_cons]

end RequestScript.Value
