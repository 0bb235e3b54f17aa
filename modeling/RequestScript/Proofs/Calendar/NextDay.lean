import Mathlib.Algebra.Order.Ring.Nat
import Mathlib.Logic.Function.Iterate
import RequestScript.Proofs.Calendar

/-!
# Days after days

The Gregorian calendar goes from each day to the next one. The number of a date counts the days
that have passed, so that numbers are in the order of dates and tell how many days lie between
two of them. The date with a number is the only date that has it.
-/

namespace RequestScript

namespace Date

/-- The calendar, in the year 1 or later, has a date. -/
structure IsDate (date : Date) : Prop where
  /-- The first year is 1. -/
  year_pos : 1 ≤ date.year
  /-- The first month is 1. -/
  month_pos : 1 ≤ date.month
  /-- The last month is 12. -/
  month_le : date.month ≤ 12
  /-- The first day is 1. -/
  day_pos : 1 ≤ date.day
  /-- The last day depends on the month and the year. -/
  day_le : date.day ≤ monthLength date.year date.month

theorem isPossible_iff {date : Date} :
    date.isPossible = true ↔ date.IsDate ∧ date.year ≤ lastYear := by
  simp only [isPossible, Bool.and_eq_true, decide_eq_true_eq]
  constructor
  · rintro ⟨⟨⟨⟨⟨hyear, hlast⟩, hmonth⟩, htwelve⟩, hday⟩, hlength⟩
    exact ⟨⟨hyear, hmonth, htwelve, hday, hlength⟩, hlast⟩
  · rintro ⟨⟨hyear, hmonth, htwelve, hday, hlength⟩, hlast⟩
    exact ⟨⟨⟨⟨⟨hyear, hlast⟩, hmonth⟩, htwelve⟩, hday⟩, hlength⟩

/-- The day after a date. -/
def next (date : Date) : Date :=
  if date.day < monthLength date.year date.month then { date with day := date.day + 1 }
  else if date.month < 12 then { date with month := date.month + 1, day := 1 }
  else { year := date.year + 1, month := 1, day := 1 }

/-- A date lies a number of days after another: it is reached day by day or, where the number is
negative, it is the one from which the other is reached. -/
def IsAfter (start : Date) (days : Int) (date : Date) : Prop :=
  next^[days.toNat] start = next^[(-days).toNat] date

/-- A date is earlier than another. -/
def Before (date other : Date) : Prop :=
  date.year < other.year ∨ date.year = other.year ∧
    (date.month < other.month ∨ date.month = other.month ∧ date.day < other.day)

/-! ## Lengths of months and years -/

theorem one_le_monthLength (year month : Nat) : 1 ≤ monthLength year month := by
  unfold monthLength
  split <;> (try split) <;> decide

/-- The days of a year are those before a thirteenth month. -/
theorem daysBeforeMonth_thirteen (year : Nat) :
    daysBeforeMonth year 13 = if isLeapYear year then 366 else 365 := by
  cases h : isLeapYear year <;> simp [daysBeforeMonth, List.range_succ, monthLength, h]

/-- A quotient grows where the divisor divides the number. -/
theorem succ_div_eq (past divisor : Nat) :
    (past + 1) / divisor = past / divisor + if (past + 1) % divisor = 0 then 1 else 0 := by
  simp only [Nat.succ_div, Nat.dvd_iff_mod_eq_zero]

theorem daysBeforeYear_succ {year : Nat} (h : 1 ≤ year) :
    daysBeforeYear (year + 1) = daysBeforeYear year + daysBeforeMonth year 13 := by
  obtain ⟨past, rfl⟩ := Nat.exists_eq_add_of_le' h
  have hleap : isLeapYear (past + 1) = true ↔
      (past + 1) % 4 = 0 ∧ ((past + 1) % 100 ≠ 0 ∨ (past + 1) % 400 = 0) := by
    simp [isLeapYear]
  have hcentury : past / 100 ≤ past / 4 := Nat.div_le_div_left (by decide) (by decide)
  have hfour : (past + 1) % 100 = 0 → (past + 1) % 4 = 0 := by omega
  have hhundred : (past + 1) % 400 = 0 → (past + 1) % 100 = 0 := by omega
  -- Each quotient grows in the years that its divisor divides, and they make the leap years.
  rw [daysBeforeMonth_thirteen, daysBeforeYear, daysBeforeYear, Nat.add_sub_cancel,
    Nat.add_sub_cancel, succ_div_eq past 4, succ_div_eq past 100, succ_div_eq past 400]
  generalize past / 4 = fours at *
  generalize past / 100 = hundreds at *
  by_cases h4 : (past + 1) % 4 = 0
  · by_cases h100 : (past + 1) % 100 = 0
    · by_cases h400 : (past + 1) % 400 = 0
      · rw [if_pos h4, if_pos h100, if_pos h400, if_pos (hleap.mpr ⟨h4, .inr h400⟩)]
        omega
      · have hnot : ¬isLeapYear (past + 1) = true := fun h =>
          (hleap.mp h).2.elim (· h100) h400
        rw [if_pos h4, if_pos h100, if_neg h400, if_neg hnot]
        omega
    · rw [if_pos h4, if_neg h100, if_neg (h100 ∘ hhundred), if_pos (hleap.mpr ⟨h4, .inl h100⟩)]
      omega
  · have h100 := h4 ∘ hfour
    rw [if_neg h4, if_neg h100, if_neg (h100 ∘ hhundred), if_neg fun h => h4 (hleap.mp h).1]
    omega

theorem daysBeforeMonth_le {year month other : Nat} (hmonth : 1 ≤ month) (h : month ≤ other) :
    daysBeforeMonth year month ≤ daysBeforeMonth year other := by
  induction other, h using Nat.le_induction with
  | base => exact le_rfl
  | succ other hother ih =>
    rw [daysBeforeMonth_succ year (hmonth.trans hother)]
    exact ih.trans (Nat.le_add_right _ _)

theorem daysBeforeYear_le {year other : Nat} (hyear : 1 ≤ year) (h : year ≤ other) :
    daysBeforeYear year ≤ daysBeforeYear other := by
  induction other, h using Nat.le_induction with
  | base => exact le_rfl
  | succ other hother ih =>
    rw [daysBeforeYear_succ (hyear.trans hother)]
    exact ih.trans (Nat.le_add_right _ _)

/-! ## Numbers of dates -/

namespace IsDate

variable {date other : Date} (h : date.IsDate)

include h

/-- The days up to a date are at most those before the next month. -/
theorem daysBeforeMonth_add_day_le :
    daysBeforeMonth date.year date.month + date.day ≤
      daysBeforeMonth date.year (date.month + 1) := by
  rw [daysBeforeMonth_succ date.year h.month_pos]
  exact Nat.add_le_add_left h.day_le _

/-- The days up to a date are at most those before the next year. -/
theorem toNumber_le : date.toNumber ≤ daysBeforeYear (date.year + 1) := by
  have hmonth := h.daysBeforeMonth_add_day_le
  have hyear : daysBeforeMonth date.year (date.month + 1) ≤ daysBeforeMonth date.year 13 :=
    daysBeforeMonth_le (Nat.le_add_left 1 _) (Nat.succ_le_succ h.month_le)
  rw [daysBeforeYear_succ h.year_pos, toNumber]
  omega

/-- An earlier date has a smaller number. -/
theorem toNumber_lt (hother : other.IsDate) (hbefore : date.Before other) :
    date.toNumber < other.toNumber := by
  have hday := hother.day_pos
  rcases hbefore with hyear | ⟨hyear, hmonth | ⟨hmonth, hless⟩⟩
  · have hend := h.toNumber_le
    have hstart : daysBeforeYear (date.year + 1) ≤ daysBeforeYear other.year :=
      daysBeforeYear_le (Nat.le_add_left 1 _) hyear
    have hnumber : other.toNumber = daysBeforeYear other.year +
      daysBeforeMonth other.year other.month + other.day := rfl
    omega
  · have hend := h.daysBeforeMonth_add_day_le
    have hstart : daysBeforeMonth date.year (date.month + 1) ≤
        daysBeforeMonth date.year other.month :=
      daysBeforeMonth_le (Nat.le_add_left 1 _) (Nat.succ_le_of_lt hmonth)
    simp only [toNumber, ← hyear]
    omega
  · simp only [toNumber, ← hyear, ← hmonth]
    omega

/-- Of two dates with different numbers the one with the smaller number is earlier. -/
theorem before_of_toNumber_lt (hother : other.IsDate) (hless : date.toNumber < other.toNumber) :
    date.Before other := by
  have hnot : ¬other.Before date := fun hbefore => Nat.lt_asymm hless (hother.toNumber_lt h hbefore)
  have hne : date ≠ other := fun heq => Nat.ne_of_lt hless (congrArg toNumber heq)
  obtain ⟨year, month, day⟩ := date
  obtain ⟨otherYear, otherMonth, otherDay⟩ := other
  simp only [Before, ne_eq, mk.injEq] at *
  omega

/-- No two dates have one number. -/
theorem eq_of_toNumber_eq (hother : other.IsDate) (hnumber : date.toNumber = other.toNumber) :
    date = other := by
  have hnot : ¬date.Before other := fun hbefore =>
    Nat.ne_of_lt (h.toNumber_lt hother hbefore) hnumber
  have hnot' : ¬other.Before date := fun hbefore =>
    Nat.ne_of_lt (hother.toNumber_lt h hbefore) hnumber.symm
  obtain ⟨year, month, day⟩ := date
  obtain ⟨otherYear, otherMonth, otherDay⟩ := other
  simp only [Before, mk.injEq] at *
  omega

end IsDate

/-! ## Going from day to day -/

namespace IsDate

variable {date other : Date} (h : date.IsDate)

include h

theorem isDate_next : date.next.IsDate := by
  unfold next
  split
  · next hday => exact { h with day_pos := Nat.le_add_left 1 _, day_le := hday }
  split
  · next hmonth =>
    exact ⟨h.year_pos, Nat.le_add_left 1 _, hmonth, le_rfl, one_le_monthLength _ _⟩
  · exact ⟨Nat.le_add_left 1 _, le_rfl, Nat.le_add_left 1 11, le_rfl, one_le_monthLength _ _⟩

/-- The next day has the next number. -/
theorem toNumber_next : date.next.toNumber = date.toNumber + 1 := by
  have hlength := h.day_le
  have hmonth := daysBeforeMonth_succ date.year h.month_pos
  unfold next
  split
  · simp only [toNumber]
    omega
  split
  · simp only [toNumber]
    omega
  · next hday htwelve =>
    have hlast : date.month = 12 := le_antisymm h.month_le (Nat.le_of_not_lt htwelve)
    have hyear := daysBeforeYear_succ h.year_pos
    have hfirst : daysBeforeMonth (date.year + 1) 1 = 0 := rfl
    have hdecember : daysBeforeMonth date.year 13 =
        daysBeforeMonth date.year 12 + monthLength date.year 12 :=
        daysBeforeMonth_succ date.year (by decide)
    rw [hlast] at hday hlength
    simp only [toNumber, hlast]
    omega

theorem iterate_next (days : Nat) :
    (next^[days] date).IsDate ∧ (next^[days] date).toNumber = date.toNumber + days := by
  induction days with
  | zero => exact ⟨h, rfl⟩
  | succ days ih =>
    obtain ⟨hdate, hnumber⟩ := ih
    rw [Function.iterate_succ_apply']
    exact ⟨hdate.isDate_next, by rw [hdate.toNumber_next, hnumber, Nat.add_assoc]⟩

/-- **Days between dates.** The number of days from a date to another is the difference of their
numbers. -/
theorem isAfter_iff (hother : other.IsDate) {days : Int} :
    date.IsAfter days other ↔ (other.toNumber : Int) = date.toNumber + days := by
  obtain ⟨hdate, hnumber⟩ := h.iterate_next days.toNat
  obtain ⟨hdate', hnumber'⟩ := hother.iterate_next (-days).toNat
  have hsame : date.IsAfter days other ↔
      date.toNumber + days.toNat = other.toNumber + (-days).toNat := by
    rw [← hnumber, ← hnumber']
    exact ⟨congrArg toNumber, hdate.eq_of_toNumber_eq hdate'⟩
  rw [hsame]
  omega

end IsDate

/-! ## The date with a number -/

theorem one_le_yearAfter (days : Nat) : 1 ≤ yearAfter days := by
  by_contra h
  have hyear : yearAfter days = 0 := by omega
  have hnext := (yearAfter_spec days).2
  rw [hyear] at hnext
  exact Nat.not_lt_zero days hnext

/-- Before the start of the months that are left behind, the month and the day are on the
calendar. -/
theorem monthAndDay_spec {year month days left : Nat} (hmonth : 1 ≤ month)
    (h : daysBeforeMonth year month + days < daysBeforeMonth year (month + left)) :
    1 ≤ (monthAndDay year month days left).1 ∧
      (monthAndDay year month days left).1 < month + left ∧
      1 ≤ (monthAndDay year month days left).2 ∧
      (monthAndDay year month days left).2 ≤
        monthLength year (monthAndDay year month days left).1 := by
  induction left generalizing month days with
  | zero => exact absurd h (Nat.not_lt.mpr (Nat.le_add_right _ _))
  | succ left ih =>
    unfold monthAndDay
    split
    · next hday => exact ⟨hmonth, by omega, Nat.le_add_left 1 _, hday⟩
    · next hday =>
      have hnext := daysBeforeMonth_succ year hmonth
      have hshift : month + (left + 1) = month + 1 + left := by omega
      rw [hshift] at h ⊢
      exact ih (Nat.le_add_left 1 _) (by omega)

/-- A number stands for a date of the calendar. -/
theorem isDate_of_ofNumber? {number : Int} {date : Date} (h : ofNumber? number = some date) :
    date.IsDate := by
  unfold ofNumber? at h
  dsimp only at h
  split at h
  · cases h
  split at h
  · cases h
  · obtain rfl := Option.some.inj h
    have hyear := one_le_yearAfter (number.toNat - 1)
    obtain ⟨hbegun, hnext⟩ := yearAfter_spec (number.toNat - 1)
    rw [daysBeforeYear_succ hyear] at hnext
    have hfirst : daysBeforeMonth (yearAfter (number.toNat - 1)) 1 = 0 := rfl
    have hlast : daysBeforeMonth (yearAfter (number.toNat - 1)) (1 + 12) =
      daysBeforeMonth (yearAfter (number.toNat - 1)) 13 := rfl
    have hinside : daysBeforeMonth (yearAfter (number.toNat - 1)) 1 +
        (number.toNat - 1 - daysBeforeYear (yearAfter (number.toNat - 1))) <
          daysBeforeMonth (yearAfter (number.toNat - 1)) (1 + 12) := by
      omega
    obtain ⟨hmonth, htwelve, hday, hlength⟩ := monthAndDay_spec le_rfl hinside
    exact ⟨hyear, hmonth, Nat.le_of_lt_succ htwelve, hday, hlength⟩

section Possible

variable {date other : Date} (h : date.isPossible = true)

include h

theorem isDate_of_isPossible : date.IsDate :=
  (isPossible_iff.mp h).1

theorem isNumber_toNumber : IsNumber date.toNumber := by
  obtain ⟨hdate, hyear⟩ := isPossible_iff.mp h
  have hday := hdate.day_pos
  have hlast : daysBeforeYear (date.year + 1) ≤ daysBeforeYear (lastYear + 1) :=
    daysBeforeYear_le (Nat.le_add_left 1 _) (Nat.succ_le_succ hyear)
  have hnumber : daysBeforeYear (lastYear + 1) = lastNumber := by decide
  have hle := hdate.toNumber_le
  refine ⟨?_, by omega⟩
  simp only [toNumber]
  omega

/-- A date on the calendar is the one that its number stands for. -/
theorem ofNumber?_toNumber : ofNumber? date.toNumber = some date := by
  cases hfound : ofNumber? date.toNumber with
  | none => exact absurd (isNumber_toNumber h) (ofNumber?_eq_none_iff.mp hfound)
  | some found =>
    have hnumber := toNumber_of_ofNumber? hfound
    rw [(isDate_of_ofNumber? hfound).eq_of_toNumber_eq (isDate_of_isPossible h) (by omega)]

/-- The number of days between two dates on the calendar is the difference of their numbers. -/
theorem isAfter_iff (hother : other.isPossible = true) {days : Int} :
    date.IsAfter days other ↔ (other.toNumber : Int) = date.toNumber + days :=
  (isDate_of_isPossible h).isAfter_iff (isDate_of_isPossible hother)

/-- A date is moved to the one that lies the number of days after it. -/
theorem addDays_of_isAfter (hother : other.isPossible = true) {days : Int}
    (hafter : date.IsAfter days other) : date.addDays days = .ok other := by
  have hnumber := (isAfter_iff h hother).mp hafter
  have hnear : ¬offsetLimit < days.natAbs := by
    have hstart := isNumber_toNumber h
    have hend := isNumber_toNumber hother
    simp only [IsNumber, lastNumber, offsetLimit] at *
    omega
  rw [addDays, if_neg hnear, ← hnumber, ofNumber?_toNumber hother]

end Possible

end Date

namespace Moment

/-- The day at whose start milliseconds are counted from. -/
def firstDay : Date := ⟨1970, 1, 1⟩

/-- A time is a moment on the day that lies as many days after the first one as have passed. -/
theorem exists_ofMilliseconds_eq {milliseconds : Int} {today : Date}
    (hafter : firstDay.IsAfter (milliseconds.fdiv 86400000) today)
    (h : today.isPossible = true) :
    ∃ now, ofMilliseconds milliseconds = .ok now ∧ now.date = today := by
  have hfirst : firstDay.isPossible = true := by decide
  have hnumber := (Date.isAfter_iff hfirst h).mp hafter
  have hepoch : firstDay.toNumber = Date.epoch := by decide
  unfold ofMilliseconds
  dsimp only
  rw [← hepoch, ← hnumber, Date.ofNumber?_toNumber h]
  exact ⟨_, rfl, rfl⟩

end Moment

end RequestScript
