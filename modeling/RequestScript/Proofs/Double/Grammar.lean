import Mathlib.Data.List.TakeWhile
import RequestScript.Datum
import RequestScript.Proofs.Text.Numeral

/-!
# The grammar of decimals

A decimal without underscores is read where it is a mantissa with an optional exponent, and nowhere
else. The grammar leaves open which characters are digits.
-/

namespace RequestScript

namespace Text

/-- The signs that may stand before a numeral. -/
def signs : List (List Char) := [[], ['+'], ['-']]

section Grammar

variable (has : Char → Bool)

/-- A text of digits, at least one of them. -/
structure IsDigits (cs : List Char) : Prop where
  /-- There are digits. -/
  ne_nil : cs ≠ []
  /-- There is nothing else. -/
  allDigits : ∀ c ∈ cs, has c = true

/-- Digits with an optional fraction, or a fraction alone. -/
inductive IsMantissa : List Char → Prop
  /-- There is no point. -/
  | whole {digits : List Char} (h : IsDigits has digits) : IsMantissa digits
  /-- There are digits before the point or behind it. -/
  | pointed {whole fraction : List Char} (hne : whole ≠ [] ∨ fraction ≠ [])
    (hwhole : ∀ c ∈ whole, has c = true) (hfraction : ∀ c ∈ fraction, has c = true) :
    IsMantissa (whole ++ '.' :: fraction)

/-- A mark, an optional sign and digits, or nothing. -/
inductive IsExponent : List Char → Prop
  /-- There is no exponent. -/
  | nil : IsExponent []
  /-- There is one. -/
  | marked {mark : Char} {sign digits : List Char} (hmark : mark ∈ ['e', 'E'])
    (hsign : sign ∈ signs) (h : IsDigits has digits) : IsExponent (mark :: (sign ++ digits))

/-- A mantissa with an optional exponent. -/
inductive IsUnsignedDecimal : List Char → Prop
  | intro {mantissa exponent : List Char} (hmantissa : IsMantissa has mantissa)
    (hexponent : IsExponent has exponent) : IsUnsignedDecimal (mantissa ++ exponent)

end Grammar

/-! ## Signs -/

theorem exists_sign_append (cs : List Char) : ∃ sign ∈ signs, cs = sign ++ (takeSign cs).2 := by
  unfold takeSign
  split
  · exact ⟨['-'], by decide, rfl⟩
  · exact ⟨['+'], by decide, rfl⟩
  · exact ⟨[], by decide, rfl⟩

theorem takeSign_append {sign body : List Char} (hsign : sign ∈ signs)
    (h : ∀ c ∈ body.head?, c ∉ ['+', '-']) : (takeSign (sign ++ body)).2 = body := by
  simp only [signs, List.mem_cons, List.not_mem_nil, or_false] at hsign
  rcases hsign with rfl | rfl | rfl
  · cases body with
    | nil => rfl
    | cons c rest =>
      have hc := h c rfl
      simp only [List.mem_cons, List.not_mem_nil, or_false, not_or] at hc
      rw [List.nil_append, takeSign.eq_3 (c :: rest) (by simpa using hc.2) (by simpa using hc.1)]
  · rfl
  · rfl

/-- What stands behind an optional sign. -/
theorem takeSign_iff {P : List Char → Prop}
    (hP : ∀ body, P body → ∀ c ∈ body.head?, c ∉ ['+', '-']) {cs : List Char} :
    P (takeSign cs).2 ↔ ∃ sign ∈ signs, ∃ body, P body ∧ cs = sign ++ body := by
  constructor
  · intro h
    obtain ⟨sign, hsign, hcs⟩ := exists_sign_append cs
    exact ⟨sign, hsign, _, h, hcs⟩
  · rintro ⟨sign, hsign, body, hbody, rfl⟩
    rwa [takeSign_append hsign (hP body hbody)]

theorem not_mem_takeSign {c : Char} {cs : List Char} (h : c ∉ cs) : c ∉ (takeSign cs).2 := by
  obtain ⟨sign, -, hcs⟩ := exists_sign_append cs
  intro hmem
  exact h (hcs ▸ List.mem_append_right sign hmem)

/-! ## Digits -/

/-- The characters of decimals that are no digits. -/
def punctuation : List Char := ['.', '+', '-', 'e', 'E']

theorem not_mem_punctuation {c : Char} (h : isDigit c = true) : c ∉ punctuation := by
  have hnone : ∀ c ∈ punctuation, isDigit c = false := by
    simp only [punctuation, List.forall_mem_cons, List.not_mem_nil, false_implies, implies_true,
      and_true]
    decide
  intro hmem
  rw [hnone c hmem] at h
  cases h

theorem IsDigits.head?_not_sign {cs : List Char} (h : IsDigits isDigit cs) :
    ∀ c ∈ cs.head?, c ∉ ['+', '-'] := by
  have hsigns : ['+', '-'] ⊆ punctuation := by decide
  intro c hc hsign
  exact not_mem_punctuation (h.allDigits c (List.mem_of_mem_head? hc)) (hsigns hsign)

/-- Without underscores there is one group, and nothing but digits in it. -/
theorem groupedDigits?_eq_some_iff {cs digits : List Char} (h : '_' ∉ cs) :
    groupedDigits? cs = some digits ↔ digits = cs ∧ IsDigits isDigit cs := by
  constructor
  · intro hread
    fun_induction groupedDigits? cs generalizing digits with
    | case1 => cases hread
    | case2 c hc =>
      exact ⟨(Option.some.inj hread).symm, List.cons_ne_nil c [], List.forall_mem_singleton.mpr hc⟩
    | case3 | case5 | case7 => cases hread
    | case4 => exact absurd (List.mem_cons_of_mem _ List.mem_cons_self) h
    | case6 c rest hrest hother hc ih =>
      obtain ⟨more, hmore, rfl⟩ := Option.map_eq_some_iff.mp hread
      obtain ⟨rfl, hdigits⟩ := ih (fun hmem => h (List.mem_cons_of_mem c hmem)) hmore
      exact ⟨rfl, List.cons_ne_nil c _, List.forall_mem_cons.mpr ⟨hc, hdigits.allDigits⟩⟩
  · rintro ⟨rfl, hne, hall⟩
    exact groupedDigits?_of_forall hne hall

/-! ## Other digits -/

section Digits

variable {has other : Char → Bool} {cs : List Char}

theorem IsDigits.mono (h : IsDigits has cs) (hmono : ∀ c ∈ cs, has c = true → other c = true) :
    IsDigits other cs :=
  ⟨h.ne_nil, fun c hc => hmono c hc (h.allDigits c hc)⟩

theorem IsMantissa.mono (h : IsMantissa has cs)
    (hmono : ∀ c ∈ cs, has c = true → other c = true) : IsMantissa other cs := by
  cases h with
  | whole h => exact .whole (h.mono hmono)
  | pointed hne hwhole hfraction =>
    obtain ⟨hfront, hback⟩ := List.forall_mem_append.mp hmono
    exact .pointed hne (fun c hc => hfront c hc (hwhole c hc)) fun c hc =>
      hback c (List.mem_cons_of_mem _ hc) (hfraction c hc)

theorem IsExponent.mono (h : IsExponent has cs)
    (hmono : ∀ c ∈ cs, has c = true → other c = true) : IsExponent other cs := by
  cases h with
  | nil => exact .nil
  | marked hmark hsign h =>
    exact .marked hmark hsign (h.mono fun c hc =>
      hmono c (List.mem_cons_of_mem _ (List.mem_append_right _ hc)))

theorem IsUnsignedDecimal.mono (h : IsUnsignedDecimal has cs)
    (hmono : ∀ c ∈ cs, has c = true → other c = true) : IsUnsignedDecimal other cs := by
  obtain ⟨hmantissa, hexponent⟩ := h
  obtain ⟨hfront, hback⟩ := List.forall_mem_append.mp hmono
  exact .intro (hmantissa.mono hfront) (hexponent.mono hback)

end Digits

/-! ## Marks of exponents -/

/-- The mark of an exponent. -/
def isMark (c : Char) : Bool :=
  c == 'e' || c == 'E'

theorem isMark_iff {c : Char} : isMark c = true ↔ c ∈ ['e', 'E'] := by
  simp [isMark]

/-- A mantissa has no mark in it. -/
theorem IsMantissa.not_isMark {cs : List Char} (h : IsMantissa isDigit cs) :
    ∀ c ∈ cs, (!isMark c) = true := by
  have hmarks : ['e', 'E'] ⊆ punctuation := by decide
  have hdigit {digits : List Char} (h : ∀ c ∈ digits, isDigit c = true) :
      ∀ c ∈ digits, (!isMark c) = true := by
    intro c hc
    rw [Bool.not_eq_true', Bool.eq_false_iff, ne_eq, isMark_iff]
    exact fun hmark => not_mem_punctuation (h c hc) (hmarks hmark)
  cases h with
  | whole h => exact hdigit h.allDigits
  | pointed _ hwhole hfraction =>
    exact List.forall_mem_append.mpr
      ⟨hdigit hwhole, List.forall_mem_cons.mpr ⟨rfl, hdigit hfraction⟩⟩

/-! ## Characters of decimals -/

theorem IsMantissa.head? {cs : List Char} (h : IsMantissa isDigit cs) :
    ∃ c rest, cs = c :: rest ∧ (isDigit c = true ∨ c = '.') := by
  cases h with
  | whole h =>
    obtain ⟨c, rest, rfl⟩ := List.exists_cons_of_ne_nil h.ne_nil
    exact ⟨c, rest, rfl, .inl (h.allDigits c List.mem_cons_self)⟩
  | @pointed whole fraction _ hwhole =>
    cases whole with
    | nil => exact ⟨'.', fraction, rfl, .inr rfl⟩
    | cons c rest => exact ⟨c, _, rfl, .inl (hwhole c List.mem_cons_self)⟩

/-- An unsigned decimal does not start with a sign. -/
theorem IsUnsignedDecimal.head?_not_sign {cs : List Char} (h : IsUnsignedDecimal isDigit cs) :
    ∀ c ∈ cs.head?, c ∉ ['+', '-'] := by
  obtain ⟨hmantissa, -⟩ := h
  obtain ⟨first, rest, rfl, hfirst⟩ := hmantissa.head?
  intro c hc
  obtain rfl := Option.some.inj hc
  rcases hfirst with hdigit | rfl
  · have hdigits : IsDigits isDigit [first] :=
      ⟨List.cons_ne_nil first [], List.forall_mem_singleton.mpr hdigit⟩
    exact hdigits.head?_not_sign first rfl
  · decide

theorem subset_punctuation : ∀ sign ∈ signs, sign ⊆ punctuation := by
  simp [signs, punctuation]

theorem IsUnsignedDecimal.forall_mem {cs : List Char} (h : IsUnsignedDecimal isDigit cs) :
    ∀ c ∈ cs, isDigit c = true ∨ c ∈ punctuation := by
  obtain ⟨hmantissa, hexponent⟩ := h
  refine List.forall_mem_append.mpr ⟨?_, ?_⟩
  · cases hmantissa with
    | whole h => exact fun c hc => .inl (h.allDigits c hc)
    | pointed _ hwhole hfraction =>
      exact List.forall_mem_append.mpr ⟨fun c hc => .inl (hwhole c hc),
        List.forall_mem_cons.mpr ⟨.inr List.mem_cons_self, fun c hc => .inl (hfraction c hc)⟩⟩
  · cases hexponent with
    | nil => exact nofun
    | marked hmark hsign h =>
      refine List.forall_mem_cons.mpr ⟨.inr ?_, List.forall_mem_append.mpr
        ⟨fun c hc => .inr (subset_punctuation _ hsign hc), fun c hc => .inl (h.allDigits c hc)⟩⟩
      exact List.mem_append_right ['.', '+', '-'] hmark

/-- There is no underscore in an unsigned decimal. -/
theorem IsUnsignedDecimal.not_mem {cs : List Char} (h : IsUnsignedDecimal isDigit cs) :
    '_' ∉ cs := by
  intro hmem
  rcases h.forall_mem '_' hmem with hdigit | hother
  · exact absurd hdigit (by decide)
  · simp [punctuation] at hother

end Text

namespace Double

open Text

theorem digitsOrNone?_isSome_iff {cs : List Char} (h : '_' ∉ cs) :
    (digitsOrNone? cs).isSome ↔ ∀ c ∈ cs, isDigit c = true := by
  cases cs with
  | nil => simp [digitsOrNone?]
  | cons c rest =>
    rw [digitsOrNone?, Option.isSome_iff_exists]
    · simp only [groupedDigits?_eq_some_iff h, exists_eq_left]
      exact ⟨IsDigits.allDigits, fun hall => ⟨List.cons_ne_nil c rest, hall⟩⟩
    · exact List.cons_ne_nil c rest

theorem exponentOf?_isSome_iff {cs : List Char} (h : '_' ∉ cs) :
    (exponentOf? cs).isSome ↔ ∃ sign ∈ signs, ∃ digits, IsDigits isDigit digits ∧
      cs = sign ++ digits := by
  rw [← takeSign_iff fun _ => IsDigits.head?_not_sign]
  have hsome : (exponentOf? cs).isSome ↔ (groupedDigits? (takeSign cs).2).isSome := by
    unfold exponentOf?
    cases h : groupedDigits? (takeSign cs).2 <;> simp [h]
  rw [hsome, Option.isSome_iff_exists]
  simp only [groupedDigits?_eq_some_iff (not_mem_takeSign h), exists_eq_left]

/-! ## Mantissas -/

/-- The digits of a mantissa before its point. -/
def wholeOf (cs : List Char) : List Char :=
  cs.takeWhile (· != '.')

/-- The digits of a mantissa behind its point. -/
def fractionOf (cs : List Char) : List Char :=
  (cs.dropWhile (· != '.')).drop 1

theorem bne_point {cs : List Char} (h : ∀ c ∈ cs, isDigit c = true) :
    ∀ c ∈ cs, (c != '.') = true := by
  intro c hc
  rw [bne_iff_ne]
  rintro rfl
  exact not_mem_punctuation (h '.' hc) (by decide)

/-- A mantissa is cut at its point. -/
theorem isMantissa_iff {cs : List Char} :
    IsMantissa isDigit cs ↔ (wholeOf cs ≠ [] ∨ fractionOf cs ≠ []) ∧
      (∀ c ∈ wholeOf cs, isDigit c = true) ∧ ∀ c ∈ fractionOf cs, isDigit c = true := by
  constructor
  · intro h
    cases h with
    | whole h =>
      have hwhole : wholeOf cs = cs := List.takeWhile_eq_self_iff.mpr (bne_point h.allDigits)
      have hfraction : fractionOf cs = [] := by
        rw [fractionOf, List.dropWhile_eq_nil_iff.mpr (bne_point h.allDigits), List.drop_nil]
      rw [hwhole, hfraction]
      exact ⟨.inl h.ne_nil, h.allDigits, nofun⟩
    | @pointed whole fraction hne hwhole hfraction =>
      have hstart : wholeOf (whole ++ '.' :: fraction) = whole := by
        rw [wholeOf, List.takeWhile_append_of_pos (bne_point hwhole)]
        simp
      have hend : fractionOf (whole ++ '.' :: fraction) = fraction := by
        rw [fractionOf, List.dropWhile_append_of_pos (bne_point hwhole)]
        simp
      rw [hstart, hend]
      exact ⟨hne, hwhole, hfraction⟩
  · rintro ⟨hne, hwhole, hfraction⟩
    have hsplit : wholeOf cs ++ cs.dropWhile (· != '.') = cs := List.takeWhile_append_dropWhile
    cases hrest : cs.dropWhile (· != '.') with
    | nil =>
      rw [hrest, List.append_nil] at hsplit
      rw [fractionOf, hrest, List.drop_nil] at hne
      exact hsplit ▸ .whole ⟨hne.resolve_right (· rfl), hwhole⟩
    | cons c rest =>
      have hpoint : c = '.' := by
        have hhead := List.head?_dropWhile_not (· != '.') cs
        rw [hrest] at hhead
        simpa using hhead
      have hdrop : fractionOf cs = rest := by
        rw [fractionOf, hrest, List.drop_succ_cons, List.drop_zero]
      rw [hrest, hpoint] at hsplit
      rw [hdrop] at hne hfraction
      exact hsplit ▸ .pointed hne hwhole hfraction

/-- The decimal of a mantissa and an exponent. -/
def decimalOf? (mantissa : List Char) (exponent : Int) : Option (Nat × Int) := do
  if (wholeOf mantissa).isEmpty && (fractionOf mantissa).isEmpty then none
  let whole ← digitsOrNone? (wholeOf mantissa)
  let fraction ← digitsOrNone? (fractionOf mantissa)
  return (natOfDigits (whole ++ fraction), exponent - fraction.length)

theorem decimalOf?_isSome_iff {mantissa : List Char} (h : '_' ∉ mantissa) (exponent : Int) :
    (decimalOf? mantissa exponent).isSome ↔ IsMantissa isDigit mantissa := by
  have hwhole : '_' ∉ wholeOf mantissa := fun hmem => h ((List.takeWhile_prefix _).subset hmem)
  have hfraction : '_' ∉ fractionOf mantissa := fun hmem =>
    h ((List.dropWhile_suffix _).subset (List.mem_of_mem_drop hmem))
  rw [isMantissa_iff, ← digitsOrNone?_isSome_iff hwhole, ← digitsOrNone?_isSome_iff hfraction]
  unfold decimalOf?
  by_cases hempty : wholeOf mantissa = [] ∧ fractionOf mantissa = []
  · simp [hempty.1, hempty.2]
  · have hne := not_and_or.mp hempty
    have hguard : ((wholeOf mantissa).isEmpty && (fractionOf mantissa).isEmpty) = false := by
      rw [Bool.eq_false_iff, ne_eq, Bool.and_eq_true, List.isEmpty_iff, List.isEmpty_iff]
      exact hempty
    cases hw : digitsOrNone? (wholeOf mantissa) <;>
      cases hf : digitsOrNone? (fractionOf mantissa) <;> simp only [hguard] <;> simp [hne]

/-! ## Exponents -/

/-- The exponent that a text denotes with its mark; nothing denotes zero. -/
def markedExponent? : List Char → Option Int
  | [] => some 0
  | _ :: rest => exponentOf? rest

theorem markedExponent?_isSome_iff {cs : List Char} (h : '_' ∉ cs)
    (hhead : ∀ c ∈ cs.head?, isMark c = true) :
    (markedExponent? cs).isSome ↔ IsExponent isDigit cs := by
  cases cs with
  | nil => exact ⟨fun _ => .nil, fun _ => rfl⟩
  | cons mark rest =>
    have hmark := isMark_iff.mp (hhead mark rfl)
    rw [markedExponent?, exponentOf?_isSome_iff fun hmem => h (List.mem_cons_of_mem mark hmem)]
    constructor
    · rintro ⟨sign, hsign, digits, hdigits, rfl⟩
      exact .marked hmark hsign hdigits
    · intro hexponent
      cases hexponent with
      | marked _ hsign hdigits => exact ⟨_, hsign, _, hdigits, rfl⟩

/-! ## Decimals -/

/-- A decimal is cut at the mark of its exponent. -/
theorem unsignedDecimal?_eq (cs : List Char) :
    unsignedDecimal? cs =
      markedExponent? (cs.dropWhile (!isMark ·)) >>= decimalOf? (cs.takeWhile (!isMark ·)) := by
  unfold unsignedDecimal? markedExponent?
  change (match cs.dropWhile (!isMark ·) with
    | [] => _
    | _ :: _ => _) = _
  split <;> rfl

/-- **Which texts are unsigned decimals**: a mantissa with an optional exponent, of digits of any
script. -/
theorem unsignedDecimal?_isSome_iff {cs : List Char} (h : '_' ∉ cs) :
    (unsignedDecimal? cs).isSome ↔ IsUnsignedDecimal isDigit cs := by
  have hmantissa : '_' ∉ cs.takeWhile (!isMark ·) := fun hmem =>
    h ((List.takeWhile_prefix _).subset hmem)
  have hexponent : '_' ∉ cs.dropWhile (!isMark ·) := fun hmem =>
    h ((List.dropWhile_suffix _).subset hmem)
  have hhead : ∀ c ∈ (cs.dropWhile (!isMark ·)).head?, isMark c = true := by
    intro c hc
    have hnot := List.head?_dropWhile_not (!isMark ·) cs
    rw [Option.mem_def.mp hc] at hnot
    simpa using hnot
  have hparts : (unsignedDecimal? cs).isSome ↔
      IsExponent isDigit (cs.dropWhile (!isMark ·)) ∧
        IsMantissa isDigit (cs.takeWhile (!isMark ·)) := by
    rw [unsignedDecimal?_eq, ← markedExponent?_isSome_iff hexponent hhead,
      ← decimalOf?_isSome_iff hmantissa 0]
    cases markedExponent? (cs.dropWhile (!isMark ·)) with
    | none => simp
    | some exponent =>
      simp [decimalOf?_isSome_iff hmantissa]
  rw [hparts]
  constructor
  · rintro ⟨hexponent, hmantissa⟩
    have hwhole := IsUnsignedDecimal.intro hmantissa hexponent
    rwa [List.takeWhile_append_dropWhile] at hwhole
  · rintro ⟨hfront, hback⟩
    rw [List.takeWhile_append_of_pos hfront.not_isMark,
      List.dropWhile_append_of_pos hfront.not_isMark]
    cases hback with
    | nil => simpa using ⟨IsExponent.nil, hfront⟩
    | marked hmark hsign hdigits =>
      have hstop : (!isMark _) = false := congrArg not (isMark_iff.mpr hmark)
      rw [List.takeWhile_cons_of_neg (by simp [hstop]), List.append_nil,
        List.dropWhile_cons_of_neg (by simp [hstop])]
      exact ⟨.marked hmark hsign hdigits, hfront⟩

end Double

namespace Value

open Text

/-- **Which texts are decimals**: an optional sign and an unsigned decimal. -/
theorem decimalNumeral?_isSome_iff {cs : List Char} :
    (decimalNumeral? cs).isSome ↔
      ∃ sign ∈ signs, ∃ body, IsUnsignedDecimal isDigit body ∧ cs = sign ++ body := by
  rw [← takeSign_iff fun _ => IsUnsignedDecimal.head?_not_sign]
  unfold decimalNumeral?
  dsimp only
  split
  · next hunderscore =>
    have hmem : '_' ∈ (takeSign cs).2 := by simpa using hunderscore
    exact iff_of_false nofun fun h => h.not_mem hmem
  · next hunderscore =>
    have hmem : '_' ∉ (takeSign cs).2 := by simpa using hunderscore
    rw [Option.isSome_map, Double.unsignedDecimal?_isSome_iff hmem]

end Value

end RequestScript
