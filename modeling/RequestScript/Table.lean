/-!
# Ordered tables

A table holds each name at most once, in the order in which the names were first set. Setting a
name again changes its value and keeps its place.
-/

namespace RequestScript

/-- Values by name, in the order of first insertion. -/
abbrev Table (α : Type) := List (String × α)

namespace Table

variable {α : Type}

/-- The value of a name. -/
def get? (table : Table α) (name : String) : Option α :=
  match table with
  | [] => none
  | (key, value) :: rest => if key = name then some value else get? rest name

/-- Whether a name has a value. -/
def has (table : Table α) (name : String) : Bool :=
  (get? table name).isSome

/-- Gives a name a value; a new name comes last. -/
def set (table : Table α) (name : String) (value : α) : Table α :=
  match table with
  | [] => [(name, value)]
  | (key, old) :: rest =>
    if key = name then (key, value) :: rest else (key, old) :: set rest name value

/-- Sets all names of another table, in its order. -/
def merge (table other : Table α) : Table α :=
  other.foldl (fun merged entry => set merged entry.1 entry.2) table

/-- The table of a list of pairs; of equal names the last value counts, at the first place. -/
def ofPairs (pairs : List (String × α)) : Table α :=
  merge [] pairs

/-- The names in order. -/
def names (table : Table α) : List String :=
  table.map (·.1)

/-- The table with every value changed by a function. -/
def mapValues {β : Type} (f : α → β) (table : Table α) : Table β :=
  table.map fun entry => (entry.1, f entry.2)

theorem get?_set_self (table : Table α) (name : String) (value : α) :
    get? (set table name value) name = some value := by
  induction table with
  | nil => simp [set, get?]
  | cons entry rest ih => by_cases h : entry.1 = name <;> simp [set, get?, h, ih]

theorem get?_set_of_ne (table : Table α) {name other : String} (value : α) (h : other ≠ name) :
    get? (set table name value) other = get? table other := by
  induction table with
  | nil => simp [set, get?, h.symm]
  | cons entry rest ih =>
    rw [set]
    split
    · next hn => simp [get?, hn, h.symm]
    · simp [get?, ih]

/-- What a table holds after a name has been set was there before, or has been set. -/
theorem mem_set {table : Table α} {name : String} {value : α}
    {entry : String × α} (h : entry ∈ set table name value) :
    entry ∈ table ∨ entry = (name, value) := by
  induction table with
  | nil => exact .inr (List.mem_singleton.mp h)
  | cons first rest ih =>
    rw [set] at h
    split at h
    · next hname =>
      rcases List.mem_cons.mp h with rfl | hrest
      · exact .inr (by rw [hname])
      · exact .inl (List.mem_cons_of_mem _ hrest)
    · rcases List.mem_cons.mp h with rfl | hrest
      · exact .inl List.mem_cons_self
      · exact (ih hrest).imp_left (List.mem_cons_of_mem _)

theorem mem_merge {table other : Table α} {entry : String × α}
    (h : entry ∈ merge table other) : entry ∈ table ∨ entry ∈ other := by
  induction other generalizing table with
  | nil => exact .inl h
  | cons first rest ih =>
    rcases ih h with hset | hrest
    · rcases mem_set hset with hold | hnew
      · exact .inl hold
      · exact .inr (by rw [hnew]; exact List.mem_cons_self)
    · exact .inr (List.mem_cons_of_mem _ hrest)

theorem mem_of_get? {table : Table α} {name : String} {value : α}
    (h : get? table name = some value) : (name, value) ∈ table := by
  induction table with
  | nil => cases h
  | cons first rest ih =>
    rw [get?] at h
    split at h
    · next hname =>
      obtain rfl := Option.some.inj h
      exact hname ▸ List.mem_cons_self
    · exact List.mem_cons_of_mem _ (ih h)

/-- A name that is not in a table is set at its end. -/
theorem set_of_not_mem {table : Table α} {name : String} (h : name ∉ names table) (value : α) :
    set table name value = table ++ [(name, value)] := by
  induction table with
  | nil => rfl
  | cons entry rest ih =>
    have hname : entry.1 ≠ name := fun heq => h (heq ▸ List.mem_cons_self)
    have hrest : name ∉ names rest := fun hmem => h (List.mem_cons_of_mem _ hmem)
    rw [set, if_neg hname, ih hrest, List.cons_append]

/-- Setting distinct new names puts them after a table, in their order. -/
theorem merge_of_nodup {table other : Table α} (h : (names (table ++ other)).Nodup) :
    merge table other = table ++ other := by
  induction other generalizing table with
  | nil => simp [merge]
  | cons entry rest ih =>
    have hentry : entry.1 ∉ names table := by
      simp only [names, List.map_append, List.map_cons, List.nodup_append] at h
      intro hmem
      exact h.2.2 _ hmem _ List.mem_cons_self rfl
    have hset : set table entry.1 entry.2 = table ++ [entry] := set_of_not_mem hentry entry.2
    have happend : table ++ [entry] ++ rest = table ++ entry :: rest := by simp
    change merge (set table entry.1 entry.2) rest = table ++ entry :: rest
    rw [hset, ih (happend ▸ h), happend]

/-- A table of distinct names is the table of its own pairs. -/
theorem ofPairs_of_nodup {table : Table α} (h : (names table).Nodup) : ofPairs table = table :=
  merge_of_nodup (by rwa [List.nil_append])

/-! ## Looking up -/

theorem get?_eq_none_iff {table : Table α} {name : String} :
    get? table name = none ↔ name ∉ names table := by
  induction table with
  | nil => simp [get?, names]
  | cons entry rest ih =>
    rw [get?]
    by_cases hname : entry.1 = name
    · simp [hname, names]
    · rw [if_neg hname, ih]
      simp [names, Ne.symm hname]

/-- A name that is found stands first in some entry. -/
theorem eq_append_of_get? {table : Table α} {name : String} {value : α}
    (h : get? table name = some value) :
    ∃ front back, table = front ++ (name, value) :: back ∧ name ∉ names front := by
  induction table with
  | nil => cases h
  | cons entry rest ih =>
    rw [get?] at h
    split at h
    · next hname =>
      obtain rfl := Option.some.inj h
      exact ⟨[], rest, by rw [← hname]; rfl, List.not_mem_nil⟩
    · next hname =>
      obtain ⟨front, back, rfl, hfront⟩ := ih h
      refine ⟨entry :: front, back, rfl, fun hmem => ?_⟩
      rcases List.mem_cons.mp hmem with hentry | hmem
      · exact hname hentry.symm
      · exact hfront hmem

/-- A name that is not in the front of a table is set behind the front. -/
theorem set_append {front : Table α} {name : String} (h : name ∉ names front) (back : Table α)
    (value : α) : set (front ++ back) name value = front ++ set back name value := by
  induction front with
  | nil => rfl
  | cons entry rest ih =>
    have hname : entry.1 ≠ name := fun heq => h (heq ▸ List.mem_cons_self)
    have hrest : name ∉ names rest := fun hmem => h (List.mem_cons_of_mem _ hmem)
    rw [List.cons_append, set, if_neg hname, ih hrest, List.cons_append]

theorem get?_append (table other : Table α) (name : String) :
    get? (table ++ other) name = (get? table name).or (get? other name) := by
  induction table with
  | nil => rfl
  | cons entry rest ih =>
    rw [List.cons_append, get?, get?, ih]
    split <;> rfl

theorem get?_merge (table other : Table α) (name : String) :
    get? (merge table other) name = (get? other.reverse name).or (get? table name) := by
  induction other generalizing table with
  | nil => rfl
  | cons entry rest ih =>
    have hmerge : merge table (entry :: rest) = merge (set table entry.1 entry.2) rest := rfl
    have hset : get? (set table entry.1 entry.2) name =
        (get? [entry] name).or (get? table name) := by
      by_cases hname : entry.1 = name
      · rw [← hname, get?_set_self, get?, if_pos rfl, Option.some_or]
      · rw [get?_set_of_ne _ _ (Ne.symm hname), get?, if_neg hname, get?, Option.none_or]
    rw [hmerge, ih, hset, List.reverse_cons, get?_append, Option.or_assoc]

/-- Of pairs with the same name the last one counts. -/
theorem get?_ofPairs (pairs : List (String × α)) (name : String) :
    get? (ofPairs pairs) name = get? pairs.reverse name := by
  rw [ofPairs, get?_merge, get?, Option.or_none]

theorem mem_names_ofPairs {pairs : List (String × α)} {name : String} :
    name ∈ names (ofPairs pairs) ↔ name ∈ names pairs := by
  have hreverse : names pairs.reverse = (names pairs).reverse := List.map_reverse
  have hnone : name ∉ names (ofPairs pairs) ↔ name ∉ names pairs := by
    rw [← get?_eq_none_iff, get?_ofPairs, get?_eq_none_iff, hreverse, List.mem_reverse]
  exact Decidable.not_iff_not.mp hnone

theorem get?_mapValues {β : Type} (f : α → β) (table : Table α) (name : String) :
    get? (mapValues f table) name = (get? table name).map f := by
  induction table with
  | nil => rfl
  | cons entry rest ih =>
    rw [mapValues, List.map_cons, ← mapValues, get?, get?, ih]
    split <;> rfl

/-! ## Distinct names -/

theorem mapValues_set {β : Type} (f : α → β) (table : Table α) (name : String) (value : α) :
    mapValues f (set table name value) = set (mapValues f table) name (f value) := by
  induction table with
  | nil => rfl
  | cons entry rest ih =>
    have hcons (rest : Table α) :
        mapValues f (entry :: rest) = (entry.1, f entry.2) :: mapValues f rest := rfl
    by_cases h : entry.1 = name
    · rw [hcons, set, set, if_pos h, if_pos h]
      rfl
    · rw [hcons, set, set, if_neg h, if_neg h, hcons, ih]

theorem names_mapValues {β : Type} (f : α → β) (table : Table α) :
    names (mapValues f table) = names table :=
  List.map_map

theorem mapValues_eq_self {f : α → α} {table : Table α} (h : ∀ entry ∈ table, f entry.2 = entry.2) :
    mapValues f table = table := by
  have hmap : table.map (fun entry => (entry.1, f entry.2)) = table.map id :=
    List.map_congr_left fun entry hentry => by rw [h entry hentry, id]
  rw [mapValues, hmap, List.map_id]

theorem names_append (table other : Table α) :
    names (table ++ other) = names table ++ names other :=
  List.map_append

/-- A name that is there already keeps its place. -/
theorem names_set_of_mem {table : Table α} {name : String} (h : name ∈ names table) (value : α) :
    names (set table name value) = names table := by
  induction table with
  | nil => cases h
  | cons entry rest ih =>
    rw [set]
    split
    · rfl
    · next hname =>
      have hrest : name ∈ names rest := (List.mem_cons.mp h).resolve_left (Ne.symm hname)
      have hcons : ∀ more : Table α, names (entry :: more) = entry.1 :: names more := fun _ => rfl
      rw [hcons, hcons, ih hrest]

theorem mem_names_set {table : Table α} {name other : String} {value : α}
    (h : other ∈ names (set table name value)) : other = name ∨ other ∈ names table := by
  obtain ⟨entry, hentry, rfl⟩ := List.mem_map.mp h
  rcases mem_set hentry with hold | rfl
  · exact .inr (List.mem_map_of_mem hold)
  · exact .inl rfl

theorem nodup_set {table : Table α} (h : (names table).Nodup) (name : String) (value : α) :
    (names (set table name value)).Nodup := by
  by_cases hmem : name ∈ names table
  · rwa [names_set_of_mem hmem]
  · rw [set_of_not_mem hmem, names_append, List.nodup_append]
    refine ⟨h, by simp [names], ?_⟩
    rintro other hother _ hname rfl
    rw [List.mem_singleton.mp hname] at hother
    exact hmem hother

theorem nodup_merge {table : Table α} (h : (names table).Nodup) (other : Table α) :
    (names (merge table other)).Nodup := by
  induction other generalizing table with
  | nil => exact h
  | cons entry rest ih => exact ih (nodup_set h entry.1 entry.2)

theorem nodup_ofPairs (pairs : List (String × α)) : (names (ofPairs pairs)).Nodup := by
  have hnone : (names ([] : Table α)).Nodup := by simp [names]
  exact nodup_merge hnone pairs

/-- In a table of distinct names every entry is found. -/
theorem get?_of_mem {table : Table α} (h : (names table).Nodup) {name : String} {value : α}
    (hmem : (name, value) ∈ table) : get? table name = some value := by
  obtain ⟨front, back, rfl⟩ := List.append_of_mem hmem
  have hfront : name ∉ names front := by
    rw [names_append, List.nodup_append] at h
    intro hname
    exact h.2.2 _ hname _ List.mem_cons_self rfl
  rw [get?_append, get?_eq_none_iff.mpr hfront, Option.none_or, get?, if_pos rfl]

/-- In a table of distinct names it does not matter from which end a name is looked for. -/
theorem get?_reverse {table : Table α} (h : (names table).Nodup) (name : String) :
    get? table.reverse name = get? table name := by
  have hreverse : names table.reverse = (names table).reverse := List.map_reverse
  cases hget : get? table name with
  | none => rwa [get?_eq_none_iff, hreverse, List.mem_reverse, ← get?_eq_none_iff]
  | some value =>
    refine get?_of_mem ?_ (List.mem_reverse.mpr (mem_of_get? hget))
    rw [hreverse]
    exact List.pairwise_reverse.mpr (h.imp Ne.symm)

/-- Distinct names that are new come behind a table, in their order. -/
theorem names_merge (table : Table α) {other : Table α} (h : (names other).Nodup) :
    names (merge table other) = names table ++ (names other).filter (· ∉ names table) := by
  induction other generalizing table with
  | nil => simp [merge, names]
  | cons entry rest ih =>
    have hmerge : merge table (entry :: rest) = merge (set table entry.1 entry.2) rest := rfl
    have hcons : names (entry :: rest) = entry.1 :: names rest := rfl
    rw [hcons, List.nodup_cons] at h
    rw [hmerge, ih _ h.2, hcons]
    by_cases hmem : entry.1 ∈ names table
    · rw [names_set_of_mem hmem, List.filter_cons_of_neg (by simpa using hmem)]
    · have hset : names (set table entry.1 entry.2) = names table ++ [entry.1] := by
        rw [set_of_not_mem hmem, names_append]
        rfl
      have hrest : (names rest).filter (· ∉ names table ++ [entry.1]) =
          (names rest).filter (· ∉ names table) := by
        refine List.filter_congr fun name hname => ?_
        have hne : name ≠ entry.1 := fun heq => h.1 (heq ▸ hname)
        simp [hne]
      rw [hset, hrest, List.filter_cons_of_pos (by simpa using hmem), List.append_assoc,
        List.singleton_append]

end Table

end RequestScript
