import RequestScript.Calendar

/-!
# The days of the calendar

The days of the years 1 to 9999 are numbered from 1 on without gaps. A number of a day stands for
the date that has the number, and every other number is out of the range of dates.
-/

namespace RequestScript

namespace Date

/-- The number of the last day. -/
def lastNumber : Nat := 3652059

/-- Whether a number is that of a day. -/
def IsNumber (number : Int) : Prop :=
  1 ≤ number ∧ number ≤ lastNumber

/-! ## Years -/

/-- On the day after a number of days its year has begun, and the next one has not. -/
theorem yearAfter_spec (days : Nat) :
    daysBeforeYear (yearAfter days) ≤ days ∧ days < daysBeforeYear (yearAfter days + 1) := by
  unfold yearAfter
  dsimp only
  repeat' split
  all_goals
    simp only [daysBeforeYear] at *
    omega

theorem lastYear_lt_yearAfter_iff (days : Nat) : lastYear < yearAfter days ↔ lastNumber ≤ days := by
  obtain ⟨hbegun, hnext⟩ := yearAfter_spec days
  simp only [daysBeforeYear, lastYear, lastNumber] at *
  omega

/-! ## Months -/

theorem daysBeforeMonth_succ (year : Nat) {month : Nat} (h : 1 ≤ month) :
    daysBeforeMonth year (month + 1) = daysBeforeMonth year month + monthLength year month := by
  obtain ⟨before, rfl⟩ := Nat.exists_eq_add_of_le' h
  simp [daysBeforeMonth, List.range_succ]

/-- The month and the day are those of the day that comes after the days. -/
theorem daysBeforeMonth_monthAndDay (year days left : Nat) {month : Nat} (h : 1 ≤ month) :
    daysBeforeMonth year (monthAndDay year month days left).1 +
      (monthAndDay year month days left).2 = daysBeforeMonth year month + days + 1 := by
  induction left generalizing month days with
  | zero => rfl
  | succ left ih =>
    unfold monthAndDay
    split
    · rfl
    · have hnext := ih (days - monthLength year month) (Nat.le_add_left 1 month)
      rw [daysBeforeMonth_succ year h] at hnext
      omega

/-! ## Dates -/

/-- Only the number of a day stands for a date. -/
theorem ofNumber?_eq_none_iff {number : Int} : ofNumber? number = none ↔ ¬IsNumber number := by
  have hyear := lastYear_lt_yearAfter_iff (number.toNat - 1)
  have hlast : lastNumber = 3652059 := rfl
  unfold ofNumber? IsNumber
  dsimp only
  split
  · simp only [true_iff]
    omega
  split
  · simp only [true_iff]
    omega
  · simp only [reduceCtorEq, false_iff]
    omega

/-- A number stands for the date that has it. -/
theorem toNumber_of_ofNumber? {number : Int} {date : Date} (h : ofNumber? number = some date) :
    (date.toNumber : Int) = number := by
  unfold ofNumber? at h
  dsimp only at h
  split at h
  · cases h
  split at h
  · cases h
  · obtain rfl := Option.some.inj h
    obtain ⟨hbegun, -⟩ := yearAfter_spec (number.toNat - 1)
    have hmonth := daysBeforeMonth_monthAndDay (yearAfter (number.toNat - 1))
      (number.toNat - 1 - daysBeforeYear (yearAfter (number.toNat - 1))) 12 (Nat.le_refl 1)
    have hfirst : daysBeforeMonth (yearAfter (number.toNat - 1)) 1 = 0 := rfl
    simp only [toNumber]
    omega

/-- A date cannot be moved by a number of days where it would leave the calendar, and only there:
the largest offset leads out of it from every date. -/
theorem addDays_eq_error_iff {date : Date} (hdate : IsNumber date.toNumber) {days : Int}
    {fault : Fault} :
    date.addDays days = .error fault ↔
      fault = .dateOutOfRange ∧ ¬IsNumber (date.toNumber + days) := by
  have hlast : lastNumber = 3652059 := rfl
  unfold addDays
  split
  · next hlarge =>
    have hout : ¬IsNumber (date.toNumber + days) := by
      simp only [IsNumber, offsetLimit] at *
      omega
    simp [hout, eq_comm]
  · cases hnumber : ofNumber? (date.toNumber + days) with
    | none => simp [ofNumber?_eq_none_iff.mp hnumber, eq_comm]
    | some moved =>
      have hin : ¬¬IsNumber (date.toNumber + days) := fun hout => by
        rw [ofNumber?_eq_none_iff.mpr hout] at hnumber
        cases hnumber
      simp [hin]

end Date

namespace Moment

/-- The number of the day of a moment. -/
def dayNumber (milliseconds : Int) : Int :=
  Date.epoch + milliseconds.fdiv 86400000

/-- A time is a moment on the day that has its number. -/
theorem ofMilliseconds_eq_error_iff {milliseconds : Int} {fault : Fault} :
    ofMilliseconds milliseconds = .error fault ↔
      fault = .dateOutOfRange ∧ ¬Date.IsNumber (dayNumber milliseconds) := by
  rw [dayNumber, ← Date.ofNumber?_eq_none_iff]
  unfold ofMilliseconds
  dsimp only
  cases Date.ofNumber? (Date.epoch + milliseconds.fdiv 86400000) <;> simp [eq_comm]

theorem toNumber_of_ofMilliseconds {milliseconds : Int} {moment : Moment}
    (h : ofMilliseconds milliseconds = .ok moment) :
    (moment.date.toNumber : Int) = dayNumber milliseconds := by
  unfold ofMilliseconds at h
  dsimp only at h
  split at h
  · next date hdate =>
    obtain rfl := Except.ok.inj h
    exact Date.toNumber_of_ofNumber? hdate
  · cases h

end Moment

end RequestScript
