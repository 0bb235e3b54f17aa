import RequestScript.Proofs.Variables.Nested
import RequestScript.Settings.Reference

/-!
# Replacing references

Replacing the references in nested variables commutes with setting one of them, since every text is
replaced on its own. A text without a reference to a variable that is set stays as it is.
-/

namespace RequestScript.Reference

open Text EnvironmentFile

variable (values : Table String)

/-! ## Texts -/

/-- What stands for the references that a text starts with anywhere in it is what they are. -/
theorem substitute_eq_self {replace? : List Char → Option (List Char × List Char)} {cs : List Char}
    (h : ∀ rest, rest <:+ cs → ∀ replacement after, replace? rest = some (replacement, after) →
      replacement ++ after = rest) : substitute replace? cs = cs := by
  induction hlength : cs.length using Nat.strong_induction_on generalizing cs with
  | h length ih =>
    subst hlength
    cases cs with
    | nil => rw [substitute]
    | cons c rest =>
      have hsuffix : rest <:+ c :: rest := List.suffix_cons c rest
      have hrest : substitute replace? rest = rest :=
        ih rest.length (Nat.lt_succ_self _) (fun part hpart => h part (hpart.trans hsuffix)) rfl
      rw [substitute]
      split
      · next replacement after hreplace =>
        have hwhole := h (c :: rest) (List.suffix_refl _) replacement after hreplace
        split
        · next hshorter =>
          have hafter : after <:+ c :: rest := ⟨replacement, hwhole⟩
          rw [ih after.length hshorter (fun part hpart => h part (hpart.trans hafter)) rfl, hwhole]
        · rw [hrest]
      · rw [hrest]

/-- A reference stands at the start of a text, up to the text after it. -/
theorem isSuffix_of_name? {cs name after : List Char} (h : name? cs = some (name, after)) :
    after <:+ cs ∧ cs.head? = some '$' := by
  unfold name? at h
  split at h
  · next rest =>
    dsimp only at h
    split at h
    · next close final hdrop =>
      split at h
      · cases h
      · obtain ⟨-, rfl⟩ := Prod.mk.inj (Option.some.inj h)
        have hclose : final <:+ rest :=
          (List.suffix_cons close final).trans (hdrop ▸ List.drop_suffix _ rest)
        exact ⟨hclose.trans ((List.suffix_cons _ _).trans (List.suffix_cons _ _)), rfl⟩
    · cases h
  · next c rest _ =>
    split at h
    · obtain ⟨-, rfl⟩ := Prod.mk.inj (Option.some.inj h)
      exact ⟨(List.drop_suffix _ rest).trans ((List.suffix_cons _ _).trans (List.suffix_cons _ _)),
        rfl⟩
    · cases h
  · cases h

/-- No reference in a text is to a variable that is set. -/
def IsUnbound (values : Table String) (text : String) : Prop :=
  ∀ rest, rest <:+ text.toList → ∀ name after, name? rest = some (name, after) →
    Table.get? values (String.ofList name) = none

/-- A text in which no reference is to a variable that is set stays as it is. -/
theorem expandText_of_isUnbound {text : String} (h : IsUnbound values text) :
    expandText values text = text := by
  have hsame : substitute (replacement? values) text.toList = text.toList := by
    refine substitute_eq_self fun rest hrest replacement after hreplace => ?_
    obtain ⟨⟨name, final⟩, hname, hvalue⟩ := Option.map_eq_some_iff.mp hreplace
    dsimp only at hvalue
    rw [h rest hrest name final hname] at hvalue
    obtain ⟨rfl, rfl⟩ := Prod.mk.inj hvalue
    obtain ⟨front, hfront⟩ := (isSuffix_of_name? hname).1
    rw [← hfront]
    simp
  rw [expandText, hsame, String.ofList_toList]

theorem isUnbound_of_not_mem {text : String} (h : '$' ∉ text.toList) : IsUnbound values text := by
  intro rest hrest name after hname
  have hhead := (isSuffix_of_name? hname).2
  exact absurd (hrest.subset (List.mem_of_mem_head? hhead)) h

/-! ## Values -/

theorem expandFields_eq (fields : Table Value) :
    expandFields values fields = Table.mapValues (expand values) fields := by
  induction fields with
  | nil => rfl
  | cons field rest ih =>
    obtain ⟨name, value⟩ := field
    rw [expandFields, expandField, ih]
    rfl

theorem expandItems_eq (items : List Value) :
    expandItems values items = items.map (expand values) := by
  induction items with
  | nil => rfl
  | cons item rest ih => rw [expandItems, ih, List.map_cons]

theorem fields?_expand (value : Value) :
    (expand values value).fields? = value.fields?.map (expandFields values) := by
  cases value <;> rfl

theorem expandFields_set (fields : Table Value) (name : String) (value : Value) :
    expandFields values (Table.set fields name value) =
      Table.set (expandFields values fields) name (expand values value) := by
  rw [expandFields_eq, expandFields_eq, Table.mapValues_set]

theorem names_expandFields (fields : Table Value) :
    Table.names (expandFields values fields) = Table.names fields := by
  rw [expandFields_eq, Table.names_mapValues]

/-- Variables in which a text is set under one name are still not nested too deeply. -/
theorem expandTable_set {fields entries : Table Value}
    (h : expandTable values fields = .ok entries) (name text : String) :
    expandTable values (Table.set fields name (.string text)) =
      .ok (expandFields values (Table.set fields name (.string text))) := by
  unfold expandTable at h ⊢
  split at h
  · next hdepth =>
    refine if_pos (Nat.le_trans (Nat.succ_le_succ ?_) hdepth)
    refine Value.depthOfFields_le_iff.mpr fun field hfield => ?_
    rcases Table.mem_set hfield with hold | rfl
    · exact Value.depthOfFields_le_iff.mp (Nat.le_refl _) field hold
    · exact Nat.zero_le _
  · cases h

theorem inside_expandFields (fields : Table Value) (name : String) :
    inside (expandFields values fields) name = expandFields values (inside fields name) := by
  unfold inside
  rw [expandFields_eq, Table.get?_mapValues]
  cases Table.get? fields name with
  | none => rfl
  | some value =>
    rw [Option.map_some, Option.bind_some, Option.bind_some, fields?_expand]
    cases value.fields? <;> rfl

/-- **A variable that is set is replaced on its own.** -/
theorem expandFields_setNested (fields : Table Value) (text : String) (parts : List String) :
    expandFields values (setNested fields (.string text) parts) =
      setNested (expandFields values fields) (.string (expandText values text)) parts := by
  induction parts generalizing fields with
  | nil => rfl
  | cons name rest ih =>
    cases rest with
    | nil =>
      rw [setNested, setNested, expandFields_set, expand]
    | cons next more =>
      have hrest : next :: more ≠ [] := List.cons_ne_nil next more
      rw [setNested_cons _ _ _ hrest, setNested_cons _ _ _ hrest, expandFields_set, expand, ih,
        inside_expandFields]

/-- What a value is like that is a text without a dollar sign, values inside it apart. -/
def IsPlainHere : Value → Prop
  | .string text => '$' ∉ text.toList
  | _ => True

/-- Where no text has a dollar sign, nothing is replaced. -/
theorem expand_of_plain {value : Value} (h : value.Every IsPlainHere) :
    expand values value = value := by
  induction h with
  | @intro value here inside ih =>
    cases value with
    | string text => rw [expand, expandText_of_isUnbound values (isUnbound_of_not_mem values here)]
    | array items =>
      rw [expand, expandItems_eq]
      have hitems : items.map (expand values) = items.map id := List.map_congr_left ih
      rw [hitems, List.map_id]
    | object fields =>
      have hfields : ∀ field ∈ fields, expand values field.2 = field.2 := fun field hfield =>
        ih field.2 (List.mem_map_of_mem hfield)
      rw [expand, expandFields_eq, Table.mapValues_eq_self hfields]
    | _ => rfl

end RequestScript.Reference
