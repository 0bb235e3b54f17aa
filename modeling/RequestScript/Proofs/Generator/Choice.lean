import RequestScript.Proofs.Generator
import RequestScript.Proofs.Text.Blank

/-!
# Choosing from a list of values

The values of a list may be put in double quotes, between commas. A value then keeps its commas,
its colons and the blanks inside it, so that the list is read back as it was, and a draw chooses
one of its values.
-/

namespace RequestScript

open Text

namespace Chance

variable {α : Type} {members : List α} (default : α) (hne : members ≠ [])

include hne

/-- A member is chosen by one draw, which counts the members and starts again behind the last. -/
theorem on_pick (dice : Dice) :
    ∃ member, members[((dice.source dice.used).emod members.length).toNat]? = some member ∧
      (pick default members).on dice = (.ok member, { dice with used := dice.used + 1 }) := by
  have hlength : 0 < members.length := List.length_pos_iff.mpr hne
  have hbound : ((dice.source dice.used).emod members.length).toNat < members.length := by
    have hrest := Int.emod_lt_of_pos (dice.source dice.used) (Int.natCast_pos.mpr hlength)
    change ((dice.source dice.used) % members.length).toNat < _
    omega
  refine ⟨_, List.getElem?_eq_getElem hbound, ?_⟩
  have hget := List.getElem_eq_getD (h := hbound) default
  rw [hget]
  rfl

/-- What can be chosen are the members. -/
theorem exists_on_pick_iff {x : α} :
    (∃ dice, ((pick default members).on dice).1 = .ok x) ↔ x ∈ members := by
  constructor
  · rintro ⟨dice, hresult⟩
    obtain ⟨member, hmember, hpick⟩ := on_pick default hne dice
    rw [hpick] at hresult
    obtain rfl := Except.ok.inj hresult
    exact List.mem_of_getElem? hmember
  · intro hmem
    obtain ⟨position, hposition, rfl⟩ := List.mem_iff_getElem.mp hmem
    -- The position of a member is itself a draw that chooses it.
    obtain ⟨member, hmember, hpick⟩ := on_pick default hne { source := fun _ => position }
    have hrest : ((position : Int).emod members.length).toNat = position := by
      change ((position : Int) % members.length).toNat = position
      rw [← Int.natCast_emod, Int.toNat_natCast, Nat.mod_eq_of_lt hposition]
    rw [hrest, List.getElem?_eq_getElem hposition] at hmember
    obtain rfl := Option.some.inj hmember
    exact ⟨_, congrArg Prod.fst hpick⟩

end Chance

namespace Generator

/-- A value in double quotes. -/
def quotedValue (value : String) : List Char :=
  '\x22' :: value.toList ++ ['\x22']

/-- Values in double quotes with commas between them. -/
def quotedList (values : List String) : List Char :=
  join [','] (values.map quotedValue)

/-- What a quoted value may be: it has no quotes, and neither is it empty nor has it blanks around
it. -/
structure IsQuotable (value : String) : Prop where
  /-- It is a text without blanks around it. -/
  stripped : Stripped value
  /-- It has no quotes in it. -/
  not_mem : '\x22' ∉ value.toList

/-! ## Reading a quoted list -/

/-- Up to the quote that ends it a quoted text is the start of a piece, whatever is in it. -/
theorem enumPieces_quoted {text rest piece : List Char} {more : List (List Char)}
    (h : '\x22' ∉ text) (hrest : enumPieces false rest = piece :: more) :
    enumPieces true (text ++ '\x22' :: rest) = (text ++ piece) :: more := by
  induction text with
  | nil => simp [enumPieces, hrest]
  | cons c text ih =>
    have hc : c ≠ '\x22' := fun hc => h (hc ▸ List.mem_cons_self)
    have htext : '\x22' ∉ text := fun hmem => h (List.mem_cons_of_mem c hmem)
    simp [enumPieces, hc, ih htext]

theorem enumPieces_quotedList {values : List String} (hne : values ≠ [])
    (h : ∀ value ∈ values, '\x22' ∉ value.toList) :
    enumPieces false (quotedList values) = values.map String.toList := by
  have hstart (cs : List Char) : enumPieces false ('\x22' :: cs) = enumPieces true cs := rfl
  induction values with
  | nil => exact absurd rfl hne
  | cons value values ih =>
    obtain ⟨hvalue, hvalues⟩ := List.forall_mem_cons.mp h
    cases values with
    | nil =>
      have hend : enumPieces false [] = [[]] := rfl
      have hpieces := enumPieces_quoted hvalue hend
      rw [List.append_nil] at hpieces
      exact (hstart _).trans hpieces
    | cons next more =>
      have hlist : quotedList (value :: next :: more) =
          '\x22' :: (value.toList ++ '\x22' :: ',' :: quotedList (next :: more)) := by
        simp [quotedList, quotedValue, join]
      have hcomma : enumPieces false (',' :: quotedList (next :: more)) =
          [] :: (next :: more).map String.toList := by
        rw [← ih (List.cons_ne_nil next more) hvalues]
        rfl
      rw [hlist, hstart, enumPieces_quoted hvalue hcomma, List.append_nil]
      rfl

theorem IsQuotable.trim_eq {value : String} (h : IsQuotable value) :
    trim value.toList = value.toList :=
  trimmed_eq_self_iff.mp h.stripped.trimmed_eq

/-- A list is read back from its values in quotes. -/
theorem enumValues_quotedList {values : List String} (hne : values ≠ [])
    (h : ∀ value ∈ values, IsQuotable value) :
    enumValues (quotedList values) = values.map String.toList := by
  rw [enumValues, enumPieces_quotedList hne fun value hmem => (h value hmem).not_mem]
  have htrim : (values.map String.toList).map trim = values.map String.toList := by
    rw [List.map_map]
    exact List.map_congr_left fun value hmem => (h value hmem).trim_eq
  rw [htrim, List.filter_eq_self]
  intro cs hcs
  obtain ⟨value, hmem, rfl⟩ := List.mem_map.mp hcs
  simpa using (h value hmem).stripped.ne_empty

/-! ## Choosing -/

section Draw

variable {values : List String} (hne : values ≠ []) (h : ∀ value ∈ values, IsQuotable value)
  (clock : Int)

include hne h

theorem generate?_eq_pick :
    generate? clock ("$enum:".toList ++ quotedList values) =
      return some (← Chance.pick [] (values.map String.toList)) := by
  have hlist : enumValues (join [':'] (pieces ':' (quotedList values))) =
      values.map String.toList := by
    rw [join_pieces, enumValues_quotedList hne h]
  obtain ⟨first, rest, hvalues⟩ := List.exists_cons_of_ne_nil (List.map_eq_nil_iff.not.mpr hne)
  refine (generate?_name_append .enum clock (quotedList values)).trans ?_
  rw [generate, hlist, hvalues]

/-- **A choice from quoted values**, whatever commas, colons and inner blanks they have. The list
is read back as it was. Each draw gives a value of the list, the one whose position is the rest of
the draw by the number of values, so that every value can be drawn, and nothing else can. -/
theorem generate?_quotedList :
    enumValues (quotedList values) = values.map String.toList ∧
      (∀ dice : Dice, ∃ value,
        values[((dice.source dice.used).emod values.length).toNat]? = some value ∧
          (generate? clock ("$enum:".toList ++ quotedList values)).on dice =
            (.ok (some value.toList), { dice with used := dice.used + 1 })) ∧
      ∀ result, (∃ dice, ((generate? clock ("$enum:".toList ++ quotedList values)).on dice).1 =
        .ok (some result)) ↔ ∃ value ∈ values, result = value.toList := by
  have hlists : values.map String.toList ≠ [] := List.map_eq_nil_iff.not.mpr hne
  have hon (dice : Dice) {value : List Char} {after : Dice}
      (hpick : (Chance.pick [] (values.map String.toList)).on dice = (.ok value, after)) :
      (generate? clock ("$enum:".toList ++ quotedList values)).on dice =
        (.ok (some value), after) := by
    rw [generate?_eq_pick hne h, Chance.on_bind, hpick]
    rfl
  refine ⟨enumValues_quotedList hne h, fun dice => ?_, fun result => ?_⟩
  · obtain ⟨text, htext, hpick⟩ := Chance.on_pick [] hlists dice
    rw [List.length_map, List.getElem?_map] at htext
    obtain ⟨value, hvalue, rfl⟩ := Option.map_eq_some_iff.mp htext
    exact ⟨value, hvalue, hon dice hpick⟩
  · have hmem : (∃ value ∈ values, result = value.toList) ↔ result ∈ values.map String.toList := by
      simp only [List.mem_map, eq_comm]
    rw [hmem, ← Chance.exists_on_pick_iff [] hlists]
    refine exists_congr fun dice => ?_
    obtain ⟨text, -, hpick⟩ := Chance.on_pick [] hlists dice
    rw [hon dice hpick, hpick]
    simp

end Draw

/-- Values with commas, colons and blanks in them. -/
def oddValues : List String := ["a, b", ":", ",", "$x:1 ,2"]

theorem isQuotable_oddValues : ∀ value ∈ oddValues, IsQuotable value := by
  have htrimmed : ∀ value ∈ oddValues, value ≠ "" ∧ trimmed value = value ∧
      '\x22' ∉ value.toList := by decide
  intro value hmem
  obtain ⟨hne, htrim, hquote⟩ := htrimmed value hmem
  exact ⟨⟨hne, htrim⟩, hquote⟩

theorem generate?_oddValues :
    enumValues "\"a, b\",\":\",\",\",\"$x:1 ,2\"".toList =
        ["a, b".toList, ":".toList, ",".toList, "$x:1 ,2".toList] ∧
      ∃ dice, ((generate? 0 "$enum:\"a, b\",\":\",\",\",\"$x:1 ,2\"".toList).on dice).1 =
        .ok (some "$x:1 ,2".toList) := by
  obtain ⟨hread, -, hdrawn⟩ :=
    generate?_quotedList (List.cons_ne_nil _ _) isQuotable_oddValues 0
  exact ⟨hread, (hdrawn _).mpr ⟨"$x:1 ,2", by decide, rfl⟩⟩

end Generator

end RequestScript
