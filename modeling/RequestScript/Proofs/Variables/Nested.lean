import Mathlib.Data.List.Nodup
import Mathlib.Data.List.TakeWhile
import RequestScript.Proofs.Value.Readable
import RequestScript.Variables.Layer

/-!
# Nested and flattened variables

A variable that is set in a nested set is set at one place among the leaves of the set. What stands
there before is overwritten, and the last leaf with a name counts when the set is flattened. So the
variable has its value unless a leaf with the same dotted name stands behind it. Where no name has a
dot there is no such leaf, and setting a variable in the nested set is setting it in the flat table.
-/

namespace RequestScript

open Text EnvironmentFile

/-- A name continues another one after a dot. -/
def Extends (name other : String) : Prop :=
  ∃ rest, name = other ++ "." ++ rest

theorem not_extends_self (name : String) : ¬Extends name name := by
  rintro ⟨rest, hrest⟩
  have hlength := congrArg String.length hrest
  simp only [String.length_append] at hlength
  have hdot : ".".length = 1 := by decide
  omega

/-- Names joined by dots. -/
def dotted (parts : List String) : String :=
  String.ofList (join ['.'] (parts.map String.toList))

theorem dotted_cons (name : String) {rest : List String} (hrest : rest ≠ []) :
    dotted (name :: rest) = name ++ "." ++ dotted rest := by
  obtain ⟨next, more, rfl⟩ := List.exists_cons_of_ne_nil hrest
  simp [dotted, join, ← String.toList_inj]

theorem dotted_partsOfName (name : String) : dotted (partsOfName name) = name := by
  have hpieces : ((pieces '.' name.toList).map String.ofList).map String.toList =
      pieces '.' name.toList := by
    rw [List.map_map]
    exact List.map_id'' (fun piece => String.toList_ofList) _
  rw [dotted, partsOfName, hpieces, join_pieces, String.ofList_toList]

theorem partsOfName_ne_nil (name : String) : partsOfName name ≠ [] :=
  fun h => pieces_ne_nil '.' name.toList (List.map_eq_nil_iff.mp h)

/-! ## Leaves -/

theorem leavesOfFields_append (start : String) (front back : Table Value) :
    leavesOfFields start (front ++ back) =
      leavesOfFields start front ++ leavesOfFields start back := by
  induction front with
  | nil => rfl
  | cons field rest ih =>
    rw [List.cons_append, leavesOfFields, leavesOfFields, ih, List.append_assoc]

theorem leavesOfFields_cons (start name : String) (value : Value) (rest : Table Value) :
    leavesOfFields start ((name, value) :: rest) =
      leaves (start ++ name) value ++ leavesOfFields start rest := by
  rw [leavesOfFields, leavesOfField]

theorem mem_leavesOfFields {start : String} {fields : Table Value} {leaf : String × String} :
    leaf ∈ leavesOfFields start fields ↔
      ∃ field ∈ fields, leaf ∈ leaves (start ++ field.1) field.2 := by
  induction fields with
  | nil => simp [leavesOfFields]
  | cons field rest ih =>
    obtain ⟨name, value⟩ := field
    rw [leavesOfFields_cons, List.mem_append, ih]
    simp

/-- The leaves of a value that is no object are the value itself. -/
theorem leaves_of_fields?_eq_none {value : Value} (h : value.fields? = none) (name : String) :
    leaves name value = [(name, value.text)] := by
  cases value with
  | object fields => cases h
  | _ => rfl

/-- A leaf of the value of a name has that name, or one that continues it. -/
theorem name_of_mem_leaves {name : String} {value : Value} {leaf : String × String}
    (h : leaf ∈ leaves name value) : leaf.1 = name ∨ Extends leaf.1 name := by
  induction value using Value.inductionOn generalizing name with
  | h value ih =>
    cases value with
    | object fields =>
      right
      obtain ⟨⟨key, inner⟩, hfield, hleaf⟩ := mem_leavesOfFields.mp h
      rcases ih inner (List.mem_map_of_mem hfield) hleaf with hname | ⟨rest, hname⟩
      · exact ⟨key, hname⟩
      · exact ⟨key ++ "." ++ rest, by rw [hname]; simp only [String.append_assoc]⟩
    | _ =>
      left
      obtain rfl := List.mem_singleton.mp h
      rfl

/-! ## Setting one variable -/

/-- The entries behind the first one of a name. -/
def behind {α : Type} (name : String) : Table α → Table α
  | [] => []
  | (key, _) :: rest => if key = name then rest else behind name rest

/-- The fields of the object under a name; what is no object has none. -/
def inside (fields : Table Value) (name : String) : Table Value :=
  ((Table.get? fields name).bind Value.fields?).getD []

/-- Under a name there is an object, or nothing that has fields. -/
theorem get?_eq_inside_or (fields : Table Value) (name : String) :
    Table.get? fields name = some (.object (inside fields name)) ∨
      inside fields name = [] ∧ ∀ old, Table.get? fields name = some old → old.fields? = none := by
  unfold inside
  cases Table.get? fields name with
  | none => exact .inr ⟨rfl, nofun⟩
  | some old =>
    cases old with
    | object inner => exact .inl rfl
    | _ =>
      refine .inr ⟨rfl, ?_⟩
      rintro _ ⟨⟩
      rfl

/-- The leaves of the value under a name. -/
def leavesAt (start : String) (fields : Table Value) (name : String) : List (String × String) :=
  ((Table.get? fields name).map (leaves (start ++ name))).getD []

theorem mem_leavesAt {start name : String} {fields : Table Value} {leaf : String × String} :
    leaf ∈ leavesAt start fields name ↔
      ∃ old, Table.get? fields name = some old ∧ leaf ∈ leaves (start ++ name) old := by
  unfold leavesAt
  cases Table.get? fields name <;> simp

/-- The leaves behind the place that a way of names leads to. -/
def leavesBehind (start : String) (fields : Table Value) : List String → List (String × String)
  | [] => []
  | [name] => leavesOfFields start (behind name fields)
  | name :: rest =>
    leavesBehind (start ++ name ++ ".") (inside fields name) rest ++
      leavesOfFields start (behind name fields)

theorem leavesBehind_cons (start : String) (fields : Table Value) (name : String)
    {rest : List String} (hrest : rest ≠ []) :
    leavesBehind start fields (name :: rest) =
      leavesBehind (start ++ name ++ ".") (inside fields name) rest ++
        leavesOfFields start (behind name fields) := by
  cases rest with
  | nil => exact absurd rfl hrest
  | cons next more => rfl

theorem setNested_cons (fields : Table Value) (value : Value) (name : String)
    {rest : List String} (hrest : rest ≠ []) :
    setNested fields value (name :: rest) =
      Table.set fields name (.object (setNested (inside fields name) value rest)) := by
  cases rest with
  | nil => exact absurd rfl hrest
  | cons next more => rfl

theorem behind_append {α : Type} {front back : Table α} {name : String} {value : α}
    (h : name ∉ Table.names front) : behind name (front ++ (name, value) :: back) = back := by
  induction front with
  | nil => simp [behind]
  | cons entry rest ih =>
    have hname : entry.1 ≠ name := fun heq => h (heq ▸ List.mem_cons_self)
    have hrest : name ∉ Table.names rest := fun hmem => h (List.mem_cons_of_mem _ hmem)
    rw [List.cons_append, behind, if_neg hname, ih hrest]

theorem behind_of_not_mem {α : Type} {table : Table α} {name : String}
    (h : name ∉ Table.names table) : behind name table = [] := by
  induction table with
  | nil => rfl
  | cons entry rest ih =>
    have hname : entry.1 ≠ name := fun heq => h (heq ▸ List.mem_cons_self)
    have hrest : name ∉ Table.names rest := fun hmem => h (List.mem_cons_of_mem _ hmem)
    rw [behind, if_neg hname, ih hrest]

/-- Setting the value of a name changes the leaves of that value only. -/
theorem leaves_set (start : String) (fields : Table Value) (name : String) (value : Value) :
    ∃ before,
      leavesOfFields start fields =
        before ++ leavesAt start fields name ++ leavesOfFields start (behind name fields) ∧
      leavesOfFields start (Table.set fields name value) =
        before ++ leaves (start ++ name) value ++ leavesOfFields start (behind name fields) := by
  unfold leavesAt
  cases hold : Table.get? fields name with
  | none =>
    have hname := Table.get?_eq_none_iff.mp hold
    refine ⟨leavesOfFields start fields, ?_, ?_⟩
    · simp [behind_of_not_mem hname, leavesOfFields]
    · simp [behind_of_not_mem hname, Table.set_of_not_mem hname, leavesOfFields_append,
        leavesOfFields, leavesOfField]
  | some old =>
    obtain ⟨front, back, rfl, hfront⟩ := Table.eq_append_of_get? hold
    refine ⟨leavesOfFields start front, ?_, ?_⟩
    · simp [behind_append hfront, leavesOfFields_append, leavesOfFields_cons]
    · simp [behind_append hfront, Table.set_append hfront, Table.set, leavesOfFields_append,
        leavesOfFields_cons]

/-- **Where a nested variable is set**: at one place among the leaves. The leaves that stood there
before have the name of the variable, or one of the two names continues the other. -/
theorem leaves_setNested (start : String) (fields : Table Value) (text : String)
    {parts : List String} (hparts : parts ≠ []) :
    ∃ before replaced,
      leavesOfFields start fields = before ++ replaced ++ leavesBehind start fields parts ∧
      leavesOfFields start (setNested fields (.string text) parts) =
        before ++ (start ++ dotted parts, text) :: leavesBehind start fields parts ∧
      ∀ leaf ∈ replaced, leaf.1 = start ++ dotted parts ∨ Extends leaf.1 (start ++ dotted parts) ∨
        Extends (start ++ dotted parts) leaf.1 := by
  induction parts generalizing start fields with
  | nil => exact absurd rfl hparts
  | cons name rest ih =>
    cases rest with
    | nil =>
      have hname : dotted [name] = name := by simp [dotted, join]
      obtain ⟨before, hbefore, hafter⟩ := leaves_set start fields name (.string text)
      rw [hname]
      refine ⟨before, leavesAt start fields name, hbefore, ?_, fun leaf hleaf => ?_⟩
      · rw [setNested, hafter, leavesBehind]
        simp [leaves, Value.text]
      · obtain ⟨old, -, hold⟩ := mem_leavesAt.mp hleaf
        rcases name_of_mem_leaves hold with hsame | hmore
        · exact .inl hsame
        · exact .inr (.inl hmore)
    | cons next more =>
      have hrest : next :: more ≠ [] := List.cons_ne_nil next more
      have hname : start ++ dotted (name :: next :: more) =
          start ++ name ++ "." ++ dotted (next :: more) := by
        rw [dotted_cons name hrest]
        simp only [String.append_assoc]
      obtain ⟨before, hbefore, hafter⟩ := leaves_set start fields name
        (.object (setNested (inside fields name) (.string text) (next :: more)))
      obtain ⟨innerBefore, innerReplaced, hinner, hset, halong⟩ :=
        ih (start ++ name ++ ".") (inside fields name) hrest
      rw [leaves, hset] at hafter
      rw [hname, setNested_cons _ _ _ hrest, leavesBehind_cons _ _ _ hrest, hafter]
      -- What is overwritten lies inside an object, or is a value in the way of the names.
      rcases get?_eq_inside_or fields name with hobject | ⟨hinside, hnone⟩
      · refine ⟨before ++ innerBefore, innerReplaced, ?_, ?_, halong⟩
        · rw [hbefore, leavesAt, hobject, Option.map_some, Option.getD_some, leaves, hinner]
          simp only [List.append_assoc]
        · simp only [List.append_assoc, List.cons_append]
      · rw [hinside] at hinner ⊢
        have hempty : innerBefore ++ innerReplaced ++
            leavesBehind (start ++ name ++ ".") [] (next :: more) = [] := hinner.symm
        simp only [List.append_eq_nil_iff] at hempty
        obtain ⟨⟨rfl, rfl⟩, hbehind⟩ := hempty
        rw [hbehind]
        refine ⟨before, leavesAt start fields name, by simpa using hbefore, by simp, ?_⟩
        intro leaf hleaf
        obtain ⟨old, hget, hold⟩ := mem_leavesAt.mp hleaf
        rw [leaves_of_fields?_eq_none (hnone old hget)] at hold
        obtain rfl := List.mem_singleton.mp hold
        exact .inr (.inr ⟨dotted (next :: more), rfl⟩)

/-- The text of the last leaf of a name behind the place that the name leads to. -/
def leafBehind? (fields : Table Value) (name : String) : Option String :=
  Table.get? (leavesBehind "" fields (partsOfName name)).reverse name

/-- **What a nested variable is when the set is flattened**: what it was set to, unless there is a
leaf with its dotted name behind the place where it was set. -/
theorem get?_flatten_setNested (fields : Table Value) (name text : String) :
    Table.get? (flatten (setNested fields (.string text) (partsOfName name))) name =
      some ((leafBehind? fields name).getD text) := by
  obtain ⟨before, replaced, -, hafter, -⟩ :=
    leaves_setNested "" fields text (partsOfName_ne_nil name)
  rw [dotted_partsOfName, String.empty_append] at hafter
  rw [flatten, Table.get?_ofPairs, hafter, List.reverse_append, List.reverse_cons,
    Table.get?_append, Table.get?_append, leafBehind?, Table.get?, if_pos rfl]
  cases Table.get? (leavesBehind "" fields (partsOfName name)).reverse name <;> rfl

theorem partsOfName_of_not_mem {name : String} (h : '.' ∉ name.toList) :
    partsOfName name = [name] := by
  rw [partsOfName, pieces_of_not_mem h, List.map_singleton, String.ofList_toList]

theorem not_mem_names_behind {α : Type} {table : Table α} (h : (Table.names table).Nodup)
    (name : String) : name ∉ Table.names (behind name table) := by
  induction table with
  | nil => exact List.not_mem_nil
  | cons entry rest ih =>
    obtain ⟨key, value⟩ := entry
    obtain ⟨hkey, hrest⟩ := List.nodup_cons.mp h
    rw [behind]
    split
    · next heq => exact heq ▸ hkey
    · exact ih hrest

/-- Behind a variable whose name has no dot there is no leaf with its name. -/
theorem leafBehind?_of_not_mem {fields : Table Value} (hnames : (Table.names fields).Nodup)
    {name : String} (hname : '.' ∉ name.toList) : leafBehind? fields name = none := by
  rw [leafBehind?, partsOfName_of_not_mem hname, leavesBehind, Table.get?_eq_none_iff, Table.names,
    List.map_reverse, List.mem_reverse]
  intro hmem
  obtain ⟨leaf, hleaf, hsame⟩ := List.mem_map.mp hmem
  obtain ⟨field, hfield, hleaf⟩ := mem_leavesOfFields.mp hleaf
  rw [String.empty_append] at hleaf
  rcases name_of_mem_leaves hleaf with hkey | ⟨rest, hmore⟩
  · exact not_mem_names_behind hnames name
      (List.mem_map.mpr ⟨field, hfield, hkey.symm.trans hsame⟩)
  · rw [← hsame, hmore] at hname
    simp at hname

/-- The fields of the object under a name have what every value has. -/
theorem Value.Every.object_inside {p : Value → Prop} {fields : Table Value}
    (h : (Value.object fields).Every p) (hnil : p (.object [])) (name : String) :
    (Value.object (RequestScript.inside fields name)).Every p := by
  rcases get?_eq_inside_or fields name with hobject | ⟨hinside, -⟩
  · exact h.of_get? hobject
  · rw [hinside]
    exact .intro hnil nofun

/-- What holds for every value still does when a nested variable is set, if it holds for the new
values: the text, a new object, and an object with another field. -/
theorem Value.Every.setNested {p : Value → Prop} {fields : Table Value}
    (h : (Value.object fields).Every p) {text : String} (parts : List String)
    (htext : p (.string text)) (hnil : p (.object []))
    (hset : ∀ (fields : Table Value) (value : Value), ∀ name ∈ parts, p (.object fields) →
      p (.object (Table.set fields name value))) :
    (Value.object (EnvironmentFile.setNested fields (.string text) parts)).Every p := by
  induction parts generalizing fields with
  | nil => exact h
  | cons name rest ih =>
    have hfirst (value : Value) := hset fields value name List.mem_cons_self h.here
    cases rest with
    | nil => exact h.object_set (.intro htext nofun) (hfirst _)
    | cons next more =>
      rw [setNested_cons _ _ _ (List.cons_ne_nil next more)]
      refine h.object_set (ih (h.object_inside hnil name) ?_) (hfirst _)
      exact fun fields value other hother => hset fields value other (List.mem_cons_of_mem _ hother)

/-- A set that can be read still can be read when a variable in it is set. -/
theorem Value.IsReadable.setNested {fields : Table Value} (h : (Value.object fields).IsReadable)
    (text : String) (parts : List String) :
    (Value.object (EnvironmentFile.setNested fields (.string text) parts)).IsReadable :=
  Value.Every.setNested h parts trivial List.nodup_nil fun _ value name _ hnames =>
    Table.nodup_set hnames name value

/-! ## Names without dots -/

/-- What a value is like whose names have no dots, values inside it apart. -/
def IsDotlessHere (value : Value) : Prop :=
  ∀ fields ∈ value.fields?, ∀ name ∈ Table.names fields, '.' ∉ name.toList

/-- No name of an object in a value has a dot. -/
def IsDotless (value : Value) : Prop :=
  value.Every IsDotlessHere

theorem IsDotless.not_mem {fields : Table Value} (h : IsDotless (.object fields)) {name : String}
    (hname : name ∈ Table.names fields) : '.' ∉ name.toList :=
  h.here fields rfl name hname

theorem IsDotless.setNested {fields : Table Value} (h : IsDotless (.object fields)) (text : String)
    {parts : List String} (hparts : ∀ part ∈ parts, '.' ∉ part.toList) :
    IsDotless (.object (EnvironmentFile.setNested fields (.string text) parts)) := by
  refine Value.Every.setNested h parts nofun ?_ fun fields value name hname hdotless => ?_
  · rintro fields ⟨⟩ name hname
    cases hname
  · rintro changed ⟨⟩ other hother
    rcases Table.mem_names_set hother with rfl | hold
    · exact hparts other hname
    · exact hdotless fields rfl other hold

theorem not_mem_partsOfName {name part : String} (h : part ∈ partsOfName name) :
    '.' ∉ part.toList := by
  obtain ⟨piece, hpiece, rfl⟩ := List.mem_map.mp h
  rw [String.toList_ofList]
  exact not_mem_of_mem_pieces hpiece

/-- What is before the first dot of a leaf's name is the name of the field that it belongs to. -/
theorem takeWhile_of_mem_leaves {start name : String} (hname : '.' ∉ name.toList) {value : Value}
    {leaf : String × String} (h : leaf ∈ leaves (start ++ name) value) :
    ∃ rest, leaf.1 = start ++ rest ∧ rest.toList.takeWhile (· != '.') = name.toList := by
  have hall : ∀ c ∈ name.toList, (c != '.') = true := by
    intro c hc
    have hne : c ≠ '.' := fun heq => hname (heq ▸ hc)
    simpa using hne
  rcases name_of_mem_leaves h with hsame | ⟨rest, hmore⟩
  · exact ⟨name, hsame, List.takeWhile_eq_self_iff.mpr hall⟩
  · refine ⟨name ++ "." ++ rest, by rw [hmore]; simp only [String.append_assoc], ?_⟩
    simp only [String.toList_append, List.append_assoc]
    rw [List.takeWhile_append_of_pos hall]
    simp

theorem nodup_leavesOfFields (start : String) {fields : Table Value}
    (hnames : (Table.names fields).Nodup)
    (hdotless : ∀ name ∈ Table.names fields, '.' ∉ name.toList)
    (hleaves : ∀ field ∈ fields, ((leaves (start ++ field.1) field.2).map (·.1)).Nodup) :
    ((leavesOfFields start fields).map (·.1)).Nodup := by
  induction fields with
  | nil => exact List.nodup_nil
  | cons field rest ih =>
    obtain ⟨name, value⟩ := field
    obtain ⟨hnew, hdistinct⟩ := List.nodup_cons.mp hnames
    obtain ⟨hname, hrest⟩ := List.forall_mem_cons.mp hdotless
    obtain ⟨hfirst, hmore⟩ := List.forall_mem_cons.mp hleaves
    rw [leavesOfFields_cons, List.map_append, List.nodup_append]
    refine ⟨hfirst, ih hdistinct hrest hmore, ?_⟩
    intro first hmemFirst second hmemSecond heq
    obtain ⟨leaf, hleaf, rfl⟩ := List.mem_map.mp hmemFirst
    obtain ⟨other, hother, rfl⟩ := List.mem_map.mp hmemSecond
    obtain ⟨⟨key, inner⟩, hfield, hother⟩ := mem_leavesOfFields.mp hother
    have hkey : key ∈ Table.names rest := List.mem_map_of_mem hfield
    obtain ⟨after, hafter, htake⟩ := takeWhile_of_mem_leaves hname hleaf
    obtain ⟨behind, hbehind, hother⟩ := takeWhile_of_mem_leaves (hrest key hkey) hother
    have hsame : after = behind := by
      rw [hafter, hbehind, ← String.toList_inj] at heq
      simpa [String.toList_inj] using heq
    rw [hsame, hother] at htake
    exact hnew (String.toList_inj.mp htake ▸ hkey)

/-- Where no name has a dot, the leaves have distinct names. -/
theorem IsDotless.nodup_leaves {value : Value} (h : IsDotless value) (hreadable : value.IsReadable)
    (name : String) : ((leaves name value).map (·.1)).Nodup := by
  induction h generalizing name with
  | @intro value here inside ih =>
    cases value with
    | object fields =>
      refine RequestScript.nodup_leavesOfFields (name ++ ".") hreadable.here (here fields rfl) ?_
      intro field hfield
      have hmem : field.2 ∈ (Value.object fields).parts := List.mem_map_of_mem hfield
      exact ih field.2 hmem (hreadable.inside field.2 hmem) _
    | _ => exact List.nodup_singleton _

theorem IsDotless.nodup_leavesOfFields {fields : Table Value} (h : IsDotless (.object fields))
    (hreadable : (Value.object fields).IsReadable) (start : String) :
    ((leavesOfFields start fields).map (·.1)).Nodup :=
  RequestScript.nodup_leavesOfFields start hreadable.here (fun _ => h.not_mem) fun field hfield =>
    IsDotless.nodup_leaves ((Value.every_object_iff.mp h).2 field hfield)
      ((Value.every_object_iff.mp hreadable).2 field hfield) _

/-- No leaf that continues the name of a variable, or that the name continues, stands in its way. -/
def IsFree (fields : Table Value) (name : String) : Prop :=
  ∀ leaf ∈ Table.names (flatten fields), ¬Extends leaf name ∧ ¬Extends name leaf

/-- **Setting a nested variable is setting it in the flat table**, where no name has a dot and no
leaf stands in the way. -/
theorem get?_flatten_setNested_of_dotless {fields : Table Value} (h : IsDotless (.object fields))
    (hreadable : (Value.object fields).IsReadable) {name : String} (hfree : IsFree fields name)
    (text other : String) :
    Table.get? (flatten (setNested fields (.string text) (partsOfName name))) other =
      Table.get? (Table.set (flatten fields) name text) other := by
  obtain ⟨before, replaced, hbefore, hafter, hreplaced⟩ :=
    leaves_setNested "" fields text (partsOfName_ne_nil name)
  rw [dotted_partsOfName, String.empty_append] at hafter hreplaced
  by_cases hother : other = name
  · subst hother
    have hset : IsDotless (.object (setNested fields (.string text) (partsOfName other))) :=
      h.setNested text fun _ hpart => not_mem_partsOfName hpart
    have hdistinct := hset.nodup_leavesOfFields (hreadable.setNested text _) ""
    rw [hafter, List.map_append, List.nodup_append, List.map_cons, List.nodup_cons] at hdistinct
    have hshadow : leafBehind? fields other = none := by
      rw [leafBehind?, Table.get?_eq_none_iff, Table.names, List.map_reverse, List.mem_reverse]
      exact hdistinct.2.1.1
    rw [get?_flatten_setNested, hshadow, Table.get?_set_self, Option.getD_none]
  · have hnone : Table.get? replaced.reverse other = none := by
      rw [Table.get?_eq_none_iff, Table.names, List.map_reverse, List.mem_reverse]
      rintro hmem
      obtain ⟨leaf, hleaf, rfl⟩ := List.mem_map.mp hmem
      have hname : leaf.1 ∈ Table.names (flatten fields) := by
        rw [flatten, Table.mem_names_ofPairs, hbefore]
        exact List.mem_map_of_mem (List.mem_append_left _ (List.mem_append_right _ hleaf))
      rcases hreplaced leaf hleaf with hsame | hmore | hless
      · exact hother hsame
      · exact (hfree _ hname).1 hmore
      · exact (hfree _ hname).2 hless
    have hnew : Table.get? [(name, text)] other = none := by
      rw [Table.get?, if_neg (Ne.symm hother), Table.get?]
    rw [Table.get?_set_of_ne _ _ hother, flatten, flatten, Table.get?_ofPairs, Table.get?_ofPairs,
      hafter, hbefore]
    simp only [List.reverse_append, List.reverse_cons, Table.get?_append, hnone, hnew,
      Option.none_or, Option.or_none]

end RequestScript
