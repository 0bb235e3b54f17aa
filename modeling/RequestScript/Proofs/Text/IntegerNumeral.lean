import Mathlib.Data.List.DropRight
import RequestScript.Proofs.Double.Grammar
import RequestScript.Text.Split

/-!
# The grammar of integer numerals

A text is read as an integer where it is a numeral, and nowhere else. A numeral has groups of digits
with an underscore between neighbours, perhaps a sign before them and blanks around it, and no more
digits than the limit allows.
-/

namespace RequestScript.Text

/-- Groups of digits with an underscore between neighbours, and the digits of all groups. -/
inductive IsGrouped : List Char → List Char → Prop
  | intro {groups : List (List Char)} (hne : groups ≠ [])
    (hgroups : ∀ group ∈ groups, IsDigits isDigit group) :
    IsGrouped (join ['_'] groups) groups.flatten

/-- A text is a numeral of an integer. -/
inductive IsInteger : List Char → Int → Prop
  | intro {before sign body digits after : List Char}
    (hblanks : ∀ c ∈ before ++ after, isNumeralBlank c = true) (hsign : sign ∈ signs)
    (hbody : IsGrouped body digits) (hlength : digits.length ≤ digitLimit) :
    IsInteger (before ++ sign ++ body ++ after)
      (if sign = ['-'] then -(natOfDigits digits : Int) else natOfDigits digits)

/-! ## Groups of digits -/

/-- Digits before an underscore are a group. -/
theorem groupedDigits?_append {digits : List Char} (h : IsDigits isDigit digits)
    (rest : List Char) :
    groupedDigits? (digits ++ '_' :: rest) = (groupedDigits? rest).map (digits ++ ·) := by
  obtain ⟨hne, hall⟩ := h
  induction digits with
  | nil => exact absurd rfl hne
  | cons c digits ih =>
    obtain ⟨hc, hdigits⟩ := List.forall_mem_cons.mp hall
    cases digits with
    | nil => simp [groupedDigits?, hc]
    | cons d more =>
      have hd : d ≠ '_' := by
        rintro rfl
        exact absurd (hdigits '_' List.mem_cons_self) (by decide)
      have htail := ih (List.cons_ne_nil d more) hdigits
      rw [List.cons_append] at htail
      rw [List.cons_append, List.cons_append, groupedDigits?.eq_4 c
        (d :: (more ++ '_' :: rest)) (by simp) (by simpa using hd), if_pos hc, htail,
        Option.map_map]
      rfl

theorem groupedDigits?_iff {cs digits : List Char} :
    groupedDigits? cs = some digits ↔ IsGrouped cs digits := by
  constructor
  · intro h
    fun_induction groupedDigits? cs generalizing digits with
    | case1 | case3 | case5 | case7 => cases h
    | case2 c hc =>
      obtain rfl := Option.some.inj h
      exact @IsGrouped.intro [[c]] (List.cons_ne_nil _ _) (List.forall_mem_singleton.mpr
        ⟨List.cons_ne_nil c [], List.forall_mem_singleton.mpr hc⟩)
    | case4 c rest hc ih =>
      obtain ⟨more, hmore, rfl⟩ := Option.map_eq_some_iff.mp h
      obtain @⟨groups, hne, hgroups⟩ := ih hmore
      obtain ⟨next, others, rfl⟩ := List.exists_cons_of_ne_nil hne
      exact @IsGrouped.intro ([c] :: next :: others) (List.cons_ne_nil _ _)
        (List.forall_mem_cons.mpr
          ⟨⟨List.cons_ne_nil c [], List.forall_mem_singleton.mpr hc⟩, hgroups⟩)
    | case6 c rest _ _ hc ih =>
      obtain ⟨more, hmore, rfl⟩ := Option.map_eq_some_iff.mp h
      obtain @⟨groups, hne, hgroups⟩ := ih hmore
      obtain ⟨group, others, rfl⟩ := List.exists_cons_of_ne_nil hne
      obtain ⟨hgroup, hothers⟩ := List.forall_mem_cons.mp hgroups
      have hjoin : join ['_'] ((c :: group) :: others) = c :: join ['_'] (group :: others) := by
        cases others <;> rfl
      rw [← hjoin]
      exact @IsGrouped.intro ((c :: group) :: others) (List.cons_ne_nil _ _)
        (List.forall_mem_cons.mpr
          ⟨⟨List.cons_ne_nil c group, List.forall_mem_cons.mpr ⟨hc, hgroup.allDigits⟩⟩, hothers⟩)
  · rintro @⟨groups, hne, hgroups⟩
    induction groups with
    | nil => exact absurd rfl hne
    | cons group rest ih =>
      obtain ⟨hgroup, hrest⟩ := List.forall_mem_cons.mp hgroups
      cases rest with
      | nil =>
        rw [List.flatten_singleton]
        exact groupedDigits?_of_forall hgroup.ne_nil hgroup.allDigits
      | cons next more =>
        have hjoin : join ['_'] (group :: next :: more) =
            group ++ '_' :: join ['_'] (next :: more) := by
          simp [join]
        rw [hjoin, groupedDigits?_append hgroup, ih (List.cons_ne_nil next more) hrest]
        rfl

/-- There is nothing but digits and underscores in groups of digits. -/
theorem IsGrouped.isDigit_or_eq {cs digits : List Char} (h : IsGrouped cs digits) :
    cs ≠ [] ∧ ∀ c ∈ cs, isDigit c = true ∨ c = '_' := by
  obtain @⟨groups, hne, hgroups⟩ := h
  refine ⟨?_, fun c hc => ?_⟩
  · obtain ⟨group, rest, rfl⟩ := List.exists_cons_of_ne_nil hne
    have hgroup := (hgroups group List.mem_cons_self).ne_nil
    cases rest <;> simp [join, hgroup]
  · rcases mem_join hc with hseparator | ⟨group, hgroup, hmem⟩
    · exact .inr (List.mem_singleton.mp hseparator)
    · exact .inl ((hgroups group hgroup).allDigits c hmem)

/-! ## Blanks and signs -/

theorem dropWhile_append_append {p : Char → Bool} {front core : List Char}
    (hfront : ∀ c ∈ front, p c = true) (hne : core ≠ []) (hcore : ∀ c ∈ core, p c = false)
    (back : List Char) : (front ++ core ++ back).dropWhile p = core ++ back := by
  obtain ⟨c, rest, rfl⟩ := List.exists_cons_of_ne_nil hne
  have hc := hcore c List.mem_cons_self
  rw [List.append_assoc, List.dropWhile_append_of_pos hfront, List.cons_append,
    List.dropWhile_cons_of_neg (Bool.eq_false_iff.mp hc)]

/-- Blanks around a text without blanks are left out. -/
theorem trimNumeral_append {before core after : List Char}
    (hblanks : ∀ c ∈ before ++ after, isNumeralBlank c = true) (hne : core ≠ [])
    (hcore : ∀ c ∈ core, isNumeralBlank c = false) :
    trimNumeral (before ++ core ++ after) = core := by
  obtain ⟨hbefore, hafter⟩ := List.forall_mem_append.mp hblanks
  have hback : (after.reverse ++ core.reverse).dropWhile isNumeralBlank = core.reverse := by
    have hdrop := dropWhile_append_append (fun c hc => hafter c (List.mem_reverse.mp hc))
      (List.reverse_ne_nil_iff.mpr hne) (fun c hc => hcore c (List.mem_reverse.mp hc)) []
    rwa [List.append_nil, List.append_nil] at hdrop
  rw [trimNumeral, dropWhile_append_append hbefore hne hcore, List.reverse_append, hback,
    List.reverse_reverse]

/-- What is left out around a numeral are blanks. -/
theorem exists_eq_append_trimNumeral (cs : List Char) :
    ∃ before after, cs = before ++ trimNumeral cs ++ after ∧
      ∀ c ∈ before ++ after, isNumeralBlank c = true := by
  have htrim : trimNumeral cs = (cs.dropWhile isNumeralBlank).rdropWhile isNumeralBlank := rfl
  refine ⟨cs.takeWhile isNumeralBlank, (cs.dropWhile isNumeralBlank).rtakeWhile isNumeralBlank,
    ?_, List.forall_mem_append.mpr ⟨fun c hc => ?_, fun c hc => ?_⟩⟩
  · rw [htrim, List.append_assoc, List.rdropWhile_append_rtakeWhile,
      List.takeWhile_append_dropWhile]
  · exact List.mem_takeWhile_imp hc
  · exact List.mem_rtakeWhile_imp hc

theorem fst_takeSign_append {sign body : List Char} (hsign : sign ∈ signs)
    (h : ∀ c ∈ body.head?, c ∉ ['+', '-']) :
    (takeSign (sign ++ body)).1 = decide (sign = ['-']) := by
  simp only [signs, List.mem_cons, List.not_mem_nil, or_false] at hsign
  rcases hsign with rfl | rfl | rfl
  · cases body with
    | nil => rfl
    | cons c rest =>
      have hc := h c rfl
      simp only [List.mem_cons, List.not_mem_nil, or_false, not_or] at hc
      rw [List.nil_append, takeSign.eq_3 (c :: rest) (by simpa using hc.2) (by simpa using hc.1)]
      rfl
  · rfl
  · rfl

/-- Groups of digits neither start with a sign nor have blanks in them. -/
theorem IsGrouped.not_mem {cs digits : List Char} (h : IsGrouped cs digits) :
    ∀ c ∈ cs, c ∉ ['+', '-'] ∧ isNumeralBlank c = false := by
  intro c hc
  rcases h.isDigit_or_eq.2 c hc with hdigit | rfl
  · have hsigns : ['+', '-'] ⊆ punctuation := by decide
    refine ⟨fun hsign => not_mem_punctuation hdigit (hsigns hsign), ?_⟩
    rw [isNumeralBlank, isBlank_of_isDigit hdigit, Bool.false_and]
  · decide

/-- **The texts that are read as integers**: numerals, and no other ones. -/
theorem readInt?_eq_some_iff {cs : List Char} {n : Int} :
    readInt? cs = some n ↔ IsInteger cs n := by
  have hread : readInt? cs = some n ↔
      ∃ digits, IsGrouped (takeSign (trimNumeral cs)).2 digits ∧ digits.length ≤ digitLimit ∧
        n = if (takeSign (trimNumeral cs)).1 then -(natOfDigits digits : Int)
          else natOfDigits digits := by
    simp only [readInt?, readNat?, ← groupedDigits?_iff, bind, Option.bind_eq_some_iff, pure,
      Option.ite_none_right_eq_some, Option.some.injEq]
    constructor
    · rintro ⟨digits, hdigits, _, ⟨hlength, rfl⟩, rfl⟩
      exact ⟨digits, hdigits, hlength, rfl⟩
    · rintro ⟨digits, hdigits, hlength, rfl⟩
      exact ⟨digits, hdigits, _, ⟨hlength, rfl⟩, rfl⟩
  rw [hread]
  constructor
  · rintro ⟨digits, hbody, hlength, rfl⟩
    obtain ⟨before, after, hcs, hblanks⟩ := exists_eq_append_trimNumeral cs
    obtain ⟨sign, hsign, hsigned⟩ := exists_sign_append (trimNumeral cs)
    generalize (takeSign (trimNumeral cs)).2 = body at hbody hsigned
    have hminus := fst_takeSign_append hsign fun c hc =>
      (hbody.not_mem c (List.mem_of_mem_head? hc)).1
    rw [hsigned, hminus]
    have hinteger := IsInteger.intro hblanks hsign hbody hlength
    rw [List.append_assoc before, ← hsigned, ← hcs] at hinteger
    simpa only [decide_eq_true_eq] using hinteger
  · rintro @⟨before, sign, body, digits, after, hblanks, hsign, hbody, hlength⟩
    have hhead : ∀ c ∈ body.head?, c ∉ ['+', '-'] := fun c hc =>
      (hbody.not_mem c (List.mem_of_mem_head? hc)).1
    have hall : ∀ sign ∈ signs, sign.all fun c => !isNumeralBlank c := by decide
    have hnone : ∀ c ∈ sign, isNumeralBlank c = false := by simpa using hall sign hsign
    have htrim : trimNumeral (before ++ sign ++ body ++ after) = sign ++ body := by
      rw [List.append_assoc before]
      refine trimNumeral_append hblanks ?_ (List.forall_mem_append.mpr
        ⟨hnone, fun c hc => (hbody.not_mem c hc).2⟩)
      exact List.append_ne_nil_of_right_ne_nil _ hbody.isDigit_or_eq.1
    rw [htrim, takeSign_append hsign hhead, fst_takeSign_append hsign hhead]
    exact ⟨digits, hbody, hlength, by simp⟩

end RequestScript.Text
