import RequestScript.FileTree

/-!
# Writing files

A file that is written is read back. Where there is a file already, its content is all that changes:
names lead to the same places as before, and everywhere else there stands what stood there.
-/

namespace RequestScript.FileTree

variable {tree other : FileTree} {place names : List String}

theorem node?_nil (tree : FileTree) : tree.node? [] = some .directory := rfl

theorem node?_of_ne_nil (tree : FileTree) (hplace : place ≠ []) :
    tree.node? place = (tree.nodes.find? (·.1 == place)).map (·.2) := by
  rw [node?, if_neg (by simpa using hplace)]

theorem find?_replaced (entries : List (List String × FileNode)) (place : List String)
    (node : FileNode) (elsewhere : List String) :
    ((entries.map fun entry => if entry.1 == place then (place, node) else entry).find?
        (·.1 == elsewhere)).map (·.2) =
      if elsewhere = place then (entries.find? (·.1 == place)).map fun _ => node
      else (entries.find? (·.1 == elsewhere)).map (·.2) := by
  induction entries with
  | nil => simp
  | cons entry rest ih =>
    rw [List.map_cons, List.find?_cons, List.find?_cons, List.find?_cons]
    by_cases hentry : entry.1 = place
    · by_cases helse : elsewhere = place
      · simp [hentry, helse]
      · have hplace : (place == elsewhere) = false := by simpa using Ne.symm helse
        simp only [hentry, beq_self_eq_true, if_true, hplace]
        rw [ih, if_neg helse, if_neg helse]
    · have hkept : (entry.1 == place) = false := by simpa using hentry
      simp only [hkept, Bool.false_eq_true, if_false]
      by_cases helse : elsewhere = place
      · rw [if_pos helse] at ih ⊢
        simp only [helse, hkept] at ih ⊢
        exact ih
      · rw [if_neg helse] at ih ⊢
        cases entry.1 == elsewhere
        · exact ih
        · rfl

/-- What is put at a place stands there, and nothing else changes. -/
theorem node?_put (tree : FileTree) (hplace : place ≠ []) (node : FileNode)
    (elsewhere : List String) :
    (tree.put place node).node? elsewhere =
      if elsewhere = place then some node else tree.node? elsewhere := by
  by_cases hnil : elsewhere = []
  · subst hnil
    rw [if_neg (Ne.symm hplace)]
    rfl
  rw [node?_of_ne_nil _ hnil, node?_of_ne_nil _ hnil]
  unfold put
  split
  · next hany =>
    obtain ⟨found, hfound⟩ : ∃ found, tree.nodes.find? (·.1 == place) = some found :=
      Option.isSome_iff_exists.mp (by rwa [List.find?_isSome, ← List.any_eq_true])
    rw [find?_replaced, hfound]
    rfl
  · next hany =>
    have hnone : tree.nodes.find? (·.1 == place) = none :=
      List.find?_eq_none.mpr fun entry hentry hname =>
        hany (List.any_eq_true.mpr ⟨entry, hentry, hname⟩)
    rw [List.find?_append]
    by_cases helse : elsewhere = place
    · subst helse
      simp [hnone]
    · have hplace : (place == elsewhere) = false := by simpa using Ne.symm helse
      simp [helse, hplace]

/-! ## Names -/

/-- A step through a name leads on from a directory. -/
theorem walk_cons_eq_ok {name : String} {final : List String}
    (h : tree.walk place (name :: names) = .ok final) :
    tree.node? place = some .directory ∧ isTooLong name = false ∧
      tree.walk (if name = ".." then place.dropLast else place ++ [name]) names = .ok final := by
  rw [walk] at h
  split at h
  · next hnode =>
    split at h
    · cases h
    · next hlong => exact ⟨hnode, by simpa using hlong, h⟩
  · cases h
  · cases h

theorem walk_append (tree : FileTree) (place front back : List String) :
    tree.walk place (front ++ back) =
      (tree.walk place front).bind fun between => tree.walk between back := by
  induction front generalizing place with
  | nil => rfl
  | cons name rest ih =>
    rw [List.cons_append, walk, walk]
    split
    · split
      · rfl
      · exact ih _
    · rfl
    · rfl

/-- Names still lead to a place where every directory still stands. -/
theorem walk_of_directories
    (h : ∀ place, tree.node? place = some .directory → other.node? place = some .directory)
    {final : List String} (hwalk : tree.walk place names = .ok final) :
    other.walk place names = .ok final := by
  induction names generalizing place with
  | nil => exact hwalk
  | cons name rest ih =>
    obtain ⟨hnode, hlong, hrest⟩ := walk_cons_eq_ok hwalk
    rw [walk, h place hnode]
    simp only [hlong, Bool.false_eq_true, if_false]
    exact ih hrest

/-- Above a place that names lead to there are directories. -/
theorem directories_above {final : List String}
    (hstart : ∀ above, above <+: place → above ≠ place → tree.node? above = some .directory)
    (hwalk : tree.walk place names = .ok final) :
    ∀ above, above <+: final → above ≠ final → tree.node? above = some .directory := by
  induction names generalizing place with
  | nil =>
    obtain rfl := Except.ok.inj hwalk
    exact hstart
  | cons name rest ih =>
    obtain ⟨hnode, -, hrest⟩ := walk_cons_eq_ok hwalk
    have hhere : ∀ above, above <+: place → tree.node? above = some .directory := by
      intro above habove
      by_cases heq : above = place
      · exact heq ▸ hnode
      · exact hstart above habove heq
    refine ih (fun above habove hne => ?_) hrest
    split at habove
    · exact hhere above (habove.trans (List.dropLast_prefix place))
    · next hname =>
      rw [if_neg hname] at hne
      exact hhere above ((List.prefix_concat_iff.mp habove).resolve_left hne)

/-! ## Reading and writing -/

theorem find_of_walk {final : List String} {node : FileNode}
    (hwalk : tree.walk [] names = .ok final) (hnode : tree.node? final = some node) :
    tree.find names = .ok node := by
  simp [find, hwalk, hnode, bind, Except.bind, pure, Except.pure]

theorem find_eq_ok_iff {node : FileNode} :
    tree.find names = .ok node ↔
      ∃ final, tree.walk [] names = .ok final ∧ tree.node? final = some node := by
  refine ⟨fun h => ?_, fun ⟨final, hwalk, hnode⟩ => find_of_walk hwalk hnode⟩
  obtain ⟨final, hwalk, hfound⟩ := bind_eq_ok_iff.mp h
  refine ⟨final, hwalk, ?_⟩
  split at hfound
  · next hnode =>
    obtain rfl := Except.ok.inj hfound
    exact hnode
  · cases hfound

/-- What writing a file takes and does. -/
theorem write_eq_ok {content : ByteArray} (h : tree.write names content = .ok other) :
    ∃ final, tree.walk [] names = .ok final ∧ final ≠ [] ∧
      tree.node? final ≠ some .directory ∧ other = tree.put final (.file content) := by
  obtain ⟨final, hwalk, hput⟩ := bind_eq_ok_iff.mp h
  split at hput
  · cases hput
  · next hdirectory =>
    refine ⟨final, hwalk, ?_, hdirectory, (Except.ok.inj hput).symm⟩
    rintro rfl
    exact hdirectory (node?_nil tree)
  · cases hput
  · cases hput

/-- **A file that is written is read back.** -/
theorem find_of_write {content : ByteArray} (h : tree.write names content = .ok other) :
    other.find names = .ok (.file content) := by
  obtain ⟨final, hwalk, hne, hnode, rfl⟩ := write_eq_ok h
  refine find_of_walk (walk_of_directories (fun place hplace => ?_) hwalk) ?_
  · rw [node?_put tree hne, if_neg]
    · exact hplace
    · rintro rfl
      exact hnode hplace
  · rw [node?_put tree hne, if_pos rfl]

/-- A directory is not overwritten. -/
theorem write_of_directory (h : tree.find names = .ok .directory) (content : ByteArray) :
    ∃ fault, tree.write names content = .error fault := by
  cases hwrite : tree.write names content with
  | error fault => exact ⟨fault, rfl⟩
  | ok other =>
    obtain ⟨final, hwalk, -, hnode, -⟩ := write_eq_ok hwrite
    obtain ⟨place, hplace, hdirectory⟩ := find_eq_ok_iff.mp h
    obtain rfl : final = place := Except.ok.inj (hwalk.symm.trans hplace)
    exact absurd hdirectory hnode

/-! ## Writing where there is a file -/

/-- A file that is there can be written. -/
theorem exists_write {old : ByteArray} (h : tree.find names = .ok (.file old))
    (content : ByteArray) : ∃ other, tree.write names content = .ok other := by
  obtain ⟨final, hwalk, hnode⟩ := find_eq_ok_iff.mp h
  have hne : final ≠ [] := by
    rintro rfl
    cases hnode
  have hparent : tree.node? final.dropLast = some .directory := by
    refine directories_above (fun above habove hne => ?_) hwalk _ (List.dropLast_prefix final) ?_
    · exact absurd (List.prefix_nil.mp habove) hne
    · intro heq
      have hlength := congrArg List.length heq
      have hpos := List.length_pos_iff.mpr hne
      rw [List.length_dropLast] at hlength
      omega
  refine ⟨tree.put final (.file content), ?_⟩
  simp [write, hwalk, hparent, hnode, bind, Except.bind, pure, Except.pure]

/-- From one tree to another one with nothing but the content of a file changed. -/
structure Overwritten (place : List String) (tree other : FileTree) : Prop where
  before : ∃ content, tree.node? place = some (.file content)
  after : ∃ content, other.node? place = some (.file content)
  same : ∀ elsewhere, elsewhere ≠ place → other.node? elsewhere = tree.node? elsewhere

namespace Overwritten

theorem refl {content : ByteArray} (h : tree.node? place = some (.file content)) :
    Overwritten place tree tree :=
  ⟨⟨content, h⟩, ⟨content, h⟩, fun _ _ => rfl⟩

theorem trans {last : FileTree} (h : Overwritten place tree other)
    (hlast : Overwritten place other last) : Overwritten place tree last :=
  ⟨h.before, hlast.after, fun elsewhere hne =>
    (hlast.same elsewhere hne).trans (h.same elsewhere hne)⟩

/-- Names lead to the same places. -/
theorem walk_eq (h : Overwritten place tree other) (start names : List String) :
    other.walk start names = tree.walk start names := by
  induction names generalizing start with
  | nil => rfl
  | cons name rest ih =>
    rw [walk, walk]
    by_cases hstart : start = place
    · obtain ⟨content, hbefore⟩ := h.before
      obtain ⟨changed, hafter⟩ := h.after
      rw [hstart, hbefore, hafter]
    · rw [h.same start hstart]
      simp only [ih]

/-- Where something is found, it is what was found before, or it is the file. -/
theorem find_cases (h : Overwritten place tree other) (names : List String) :
    other.find names = tree.find names ∨
      (∃ content, tree.find names = .ok (.file content)) ∧
        ∃ content, other.node? place = some (.file content) ∧
          other.find names = .ok (.file content) := by
  unfold find
  rw [h.walk_eq]
  cases hwalk : tree.walk [] names with
  | error fault => exact .inl rfl
  | ok final =>
    by_cases hfinal : final = place
    · obtain ⟨content, hbefore⟩ := h.before
      obtain ⟨changed, hafter⟩ := h.after
      right
      subst hfinal
      simp [bind, Except.bind, hbefore, hafter, pure, Except.pure]
    · left
      simp only [bind, Except.bind, h.same final hfinal]

end Overwritten

theorem overwritten_of_write {content old : ByteArray} (hwalk : tree.walk [] names = .ok place)
    (hnode : tree.node? place = some (.file old)) (h : tree.write names content = .ok other) :
    Overwritten place tree other ∧ other.node? place = some (.file content) := by
  obtain ⟨final, hfinal, hne, -, rfl⟩ := write_eq_ok h
  obtain rfl : place = final := Except.ok.inj (hwalk.symm.trans hfinal)
  have hput : (tree.put place (.file content)).node? place = some (.file content) := by
    rw [node?_put tree hne, if_pos rfl]
  exact ⟨⟨⟨old, hnode⟩, ⟨content, hput⟩, fun elsewhere helse => by
    rw [node?_put tree hne, if_neg helse]⟩, hput⟩

end RequestScript.FileTree
