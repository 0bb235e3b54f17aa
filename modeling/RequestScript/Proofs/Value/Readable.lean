import RequestScript.Fault
import RequestScript.Proofs.Text.Numeral
import RequestScript.Proofs.Value.Parts
import RequestScript.Value.Reader

/-!
# Values that are read

The integers of a value that is read from a text are short enough to be written again, and the names
of each object in it are distinct. It is no deeper than there is room.
-/

namespace RequestScript.Value

open Text

/-- What a value is like that can be read, values inside it apart. -/
def IsReadableHere : Value → Prop
  | .int n => isTooLong n = false
  | .object fields => (Table.names fields).Nodup
  | _ => True

/-- A value can be read from a text, if there is room for it. -/
def IsReadable (value : Value) : Prop :=
  value.Every IsReadableHere

/-- A value can be read from a text where there is so much room. -/
def IsReadableWithin (room : Nat) (value : Value) : Prop :=
  value.IsReadable ∧ value.depth ≤ room

theorem isReadableWithin_array {room : Nat} {items : List Value}
    (h : ∀ item ∈ items, item.IsReadableWithin room) :
    (array items).IsReadableWithin (room + 1) :=
  ⟨every_array_iff.mpr ⟨trivial, fun item hitem => (h item hitem).1⟩,
    Nat.succ_le_succ (depthOfItems_le_iff.mpr fun item hitem => (h item hitem).2)⟩

theorem isReadableWithin_object {room : Nat} {fields : Table Value}
    (hnames : (Table.names fields).Nodup) (h : ∀ field ∈ fields, field.2.IsReadableWithin room) :
    (object fields).IsReadableWithin (room + 1) :=
  ⟨every_object_iff.mpr ⟨hnames, fun field hfield => (h field hfield).1⟩,
    Nat.succ_le_succ (depthOfFields_le_iff.mpr fun field hfield => (h field hfield).2)⟩

/-! ## Reading -/

theorem isTooLong_of_readWholeNumber {negative : Bool} {digits : List Char} {value : Value}
    (h : readWholeNumber negative digits = .ok value) :
    ∃ n, value = .int n ∧ isTooLong n = false := by
  unfold readWholeNumber readNat? at h
  split at h
  · next n hn =>
    split at hn
    · next hlength =>
      obtain rfl := Option.some.inj hn
      refine ⟨_, (Except.ok.inj h).symm, ?_⟩
      -- The limit stays a variable here, so that its power of ten is not computed.
      have hsmall {limit : Nat} (h : digits.length ≤ limit) :
          natOfDigits digits < Nat.pow 10 limit :=
        Nat.lt_of_lt_of_le (natOfDigits_lt digits) (Nat.pow_le_pow_right (by decide) h)
      have habs : (if negative then -(natOfDigits digits : Int) else natOfDigits digits).natAbs =
          natOfDigits digits := by
        split <;> simp
      simp only [isTooLong, habs, decide_eq_false_iff_not]
      exact Nat.not_le.mpr (hsmall hlength)
    · cases hn
  · cases h

theorem readable_of_readNumber {room : Nat} {cs rest : List Char} {value : Value}
    (h : readNumber cs = .ok (value, rest)) : value.IsReadableWithin room := by
  unfold readNumber at h
  dsimp only at h
  split at h
  · cases h
  split at h
  · split at h
    · obtain ⟨number, hwhole, hnumber⟩ := map_eq_ok_iff.mp h
      cases hnumber
      obtain ⟨n, rfl, hn⟩ := isTooLong_of_readWholeNumber hwhole
      exact ⟨.intro hn nofun, Nat.zero_le _⟩
    · cases h
      exact ⟨.intro trivial nofun, Nat.zero_le _⟩
  · cases h
    exact ⟨.intro trivial nofun, Nat.zero_le _⟩

theorem readable_of_readWord? {room : Nat} {cs rest : List Char} {value : Value}
    (h : readWord? cs = some (value, rest)) : value.IsReadableWithin room := by
  obtain ⟨⟨word, named⟩, hmem, hword⟩ := List.exists_of_findSome?_eq_some h
  dsimp only at hword
  split at hword
  · cases hword
    simp only [List.mem_cons, Prod.mk.injEq, List.not_mem_nil, or_false] at hmem
    rcases hmem with ⟨-, rfl⟩ | ⟨-, rfl⟩ | ⟨-, rfl⟩ | ⟨-, rfl⟩ | ⟨-, rfl⟩ | ⟨-, rfl⟩ <;>
      exact ⟨.intro trivial nofun, Nat.zero_le _⟩
  · cases hword

theorem isReadableWithin_ofPairs {room : Nat} {fields : List (String × Value)}
    (h : ∀ field ∈ fields, field.2.IsReadableWithin room) :
    (object (Table.ofPairs fields)).IsReadableWithin (room + 1) :=
  isReadableWithin_object (Table.nodup_ofPairs fields) fun field hmem =>
    h field ((Table.mem_merge hmem).resolve_left List.not_mem_nil)

mutual

theorem readable_of_readValue {fuel room : Nat} {cs rest : List Char} {value : Value}
    (h : readValue fuel room cs = .ok (value, rest)) : value.IsReadableWithin room := by
  match fuel, cs with
  | 0, _ => cases h
  | _ + 1, [] => cases h
  | fuel + 1, c :: tail =>
    rw [readValue] at h
    split at h
    · obtain ⟨⟨text, after⟩, _, hvalue⟩ := bind_eq_ok_iff.mp h
      cases hvalue
      exact ⟨.intro trivial nofun, Nat.zero_le _⟩
    split at h
    · split at h
      · cases h
      next hroom =>
      obtain ⟨room, rfl⟩ := Nat.exists_eq_succ_of_ne_zero hroom
      split at h
      · cases h
        exact isReadableWithin_array nofun
      · obtain ⟨⟨items, after⟩, hitems, hvalue⟩ := bind_eq_ok_iff.mp h
        cases hvalue
        exact isReadableWithin_array (readable_of_readItems hitems)
    split at h
    · split at h
      · cases h
      next hroom =>
      obtain ⟨room, rfl⟩ := Nat.exists_eq_succ_of_ne_zero hroom
      split at h
      · cases h
        exact isReadableWithin_object List.nodup_nil nofun
      · obtain ⟨⟨fields, after⟩, hfields, hvalue⟩ := bind_eq_ok_iff.mp h
        cases hvalue
        exact isReadableWithin_ofPairs (readable_of_readFields hfields)
    split at h
    · next word hword =>
      cases h
      exact readable_of_readWord? hword
    · exact readable_of_readNumber h
termination_by structural fuel

theorem readable_of_readItems {fuel room : Nat} {cs rest : List Char} {items : List Value}
    (h : readItems fuel room cs = .ok (items, rest)) :
    ∀ item ∈ items, item.IsReadableWithin room := by
  match fuel with
  | 0 => cases h
  | fuel + 1 =>
    rw [readItems] at h
    obtain ⟨⟨item, after⟩, hitem, hmore⟩ := bind_eq_ok_iff.mp h
    have hfirst := readable_of_readValue hitem
    dsimp only at hmore
    split at hmore
    · cases hmore
      exact List.forall_mem_singleton.mpr hfirst
    · obtain ⟨⟨others, last⟩, hothers, hitems⟩ := bind_eq_ok_iff.mp hmore
      cases hitems
      exact List.forall_mem_cons.mpr ⟨hfirst, readable_of_readItems hothers⟩
    · cases hmore
termination_by structural fuel

theorem readable_of_readFields {fuel room : Nat} {cs rest : List Char}
    {fields : List (String × Value)} (h : readFields fuel room cs = .ok (fields, rest)) :
    ∀ field ∈ fields, field.2.IsReadableWithin room := by
  match fuel with
  | 0 => cases h
  | fuel + 1 =>
    unfold readFields at h
    split at h
    · obtain ⟨⟨name, after⟩, _, hcolon⟩ := bind_eq_ok_iff.mp h
      dsimp only at hcolon
      split at hcolon
      · obtain ⟨⟨value, later⟩, hvalue, hmore⟩ := bind_eq_ok_iff.mp hcolon
        have hfirst := readable_of_readValue hvalue
        dsimp only at hmore
        split at hmore
        · cases hmore
          exact List.forall_mem_singleton.mpr hfirst
        · obtain ⟨⟨others, last⟩, hothers, hfields⟩ := bind_eq_ok_iff.mp hmore
          cases hfields
          exact List.forall_mem_cons.mpr ⟨hfirst, readable_of_readFields hothers⟩
        · cases hmore
      · cases hcolon
    · cases h
termination_by structural fuel

end

/-- **The value of a JSON text is readable.** -/
theorem readable_of_ofJson {room : Nat} {cs : List Char} {value : Value}
    (h : ofJson room cs = .ok value) : value.IsReadableWithin room := by
  unfold ofJson at h
  split at h
  · cases h
  · obtain ⟨⟨first, rest⟩, hread, hvalue⟩ := bind_eq_ok_iff.mp h
    dsimp only at hvalue
    split at hvalue
    · cases hvalue
      exact readable_of_readValue hread
    · cases hvalue

theorem readable_of_read {room : Nat} {s : String} {value : Value}
    (h : read room s = .ok (some value)) : value.IsReadableWithin room := by
  unfold read at h
  split at h
  · next found hfound =>
    cases h
    exact readable_of_ofJson hfound
  · cases h
  · cases h

/-! ## What readable values are like -/

theorem areWritable_iff {items : List Value} :
    areWritable items = true ↔ ∀ item ∈ items, item.isWritable = true := by
  induction items with
  | nil => simp [areWritable]
  | cons item rest ih => simp [areWritable, ih]

theorem areFieldsWritable_iff {fields : List (String × Value)} :
    areFieldsWritable fields = true ↔ ∀ field ∈ fields, field.2.isWritable = true := by
  induction fields with
  | nil => simp [areFieldsWritable]
  | cons field rest ih =>
    obtain ⟨name, value⟩ := field
    simp [areFieldsWritable, isFieldWritable, ih]

/-- A value that can be read can be written. -/
theorem IsReadable.isWritable {value : Value} (h : value.IsReadable) : value.isWritable = true := by
  induction h with
  | @intro value here inside ih =>
    cases value with
    | null | bool | double | string => rfl
    | int n =>
      have hn : isTooLong n = false := here
      rw [Value.isWritable, hn]
      rfl
    | array items => exact areWritable_iff.mpr ih
    | object fields =>
      exact areFieldsWritable_iff.mpr fun field hfield => ih field.2 (List.mem_map_of_mem hfield)

end RequestScript.Value
