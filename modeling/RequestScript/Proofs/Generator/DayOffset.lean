import RequestScript.Proofs.Calendar.NextDay
import RequestScript.Proofs.Generator

/-!
# The date at a day offset

A day offset is written as a sign and a numeral. The date that is made of it is the day that lies
as many days after the day of the clock, with a month and a day of two digits each. The year is not
padded: the texts of the years from 1000 on have ten characters, and only texts of one length are
in the order of their dates.
-/

namespace RequestScript

open Text

/-! ## Dates in numerals -/

namespace Date

/-- A text is a date in numerals, with hyphens between its year, its month and its day. -/
inductive IsSpelt (date : Date) : List Char → Prop where
  /-- The numerals denote the parts of the date. The year has no zeros in front, and the others
  have two digits. -/
  | intro {year month day : List Char}
    (allDigits : ∀ c ∈ year ++ month ++ day, c.isDigit = true)
    (head_ne_zero : year.head? ≠ some '0') (length_month : month.length = 2)
    (length_day : day.length = 2) (year_eq : natOfDigits year = date.year)
    (month_eq : natOfDigits month = date.month) (day_eq : natOfDigits day = date.day) :
    IsSpelt date (year ++ '-' :: month ++ '-' :: day)

/-- A date as `Y-MM-DD`, the year without zeros in front. -/
def hyphenated (date : Date) : List Char :=
  decimal date.year ++ '-' :: padded 2 date.month ++ '-' :: padded 2 date.day

theorem IsDate.day_lt_hundred {date : Date} (h : date.IsDate) : date.day < 10 ^ 2 := by
  have hday := h.day_le
  have hlength : monthLength date.year date.month ≤ 31 := by
    unfold monthLength
    split <;> (try split) <;> decide
  omega

theorem IsDate.month_lt_hundred {date : Date} (h : date.IsDate) : date.month < 10 ^ 2 := by
  have hmonth := h.month_le
  omega

theorem isSpelt_hyphenated {date : Date} (h : date.IsDate) : date.IsSpelt date.hyphenated := by
  refine .intro (fun c hc => ?_) (fun hhead => ?_)
    (length_padded Nat.two_pos h.month_lt_hundred) (length_padded Nat.two_pos h.day_lt_hundred)
    (natOfDigits_decimal _) (natOfDigits_padded 2 _) (natOfDigits_padded 2 _)
  · rcases List.mem_append.mp hc with hfront | hday
    · rcases List.mem_append.mp hfront with hyear | hmonth
      · exact isDigit_of_mem_decimal hyear
      · exact isDigit_of_mem_padded hmonth
    · exact isDigit_of_mem_padded hday
  · -- Only the numeral of zero starts with a zero, and there is no such year.
    obtain ⟨rest, hrest⟩ := List.head?_eq_some_iff.mp hhead
    have hzero := natOfDigits_decimal date.year
    rw [hrest, head_decimal hrest] at hzero
    have hvalue : natOfDigits ['0'] = 0 := by decide
    have hyear := h.year_pos
    omega

theorem length_hyphenated {date : Date} (h : date.IsDate) :
    date.hyphenated.length = (decimal date.year).length + 6 := by
  simp only [hyphenated, List.length_append, List.length_cons,
    length_padded Nat.two_pos h.month_lt_hundred, length_padded Nat.two_pos h.day_lt_hundred]

/-- Up to the year 9999 there are ten characters from the year 1000 on. -/
theorem length_hyphenated_eq_ten_iff {date : Date} (h : date.isPossible = true) :
    date.hyphenated.length = 10 ↔ 1000 ≤ date.year := by
  obtain ⟨hdate, hlast⟩ := isPossible_iff.mp h
  have hthree := length_decimal_le_iff (show 0 < 3 by decide) (n := date.year)
  have hfour := length_decimal_le_iff (show 0 < 4 by decide) (n := date.year)
  rw [length_hyphenated hdate]
  simp only [lastYear] at hlast
  omega

/-- Texts of one length are in the order of their dates. -/
theorem hyphenated_lt {date other : Date} (h : date.IsDate) (hother : other.IsDate)
    (hbefore : date.Before other) (hlength : date.hyphenated.length = other.hyphenated.length) :
    date.hyphenated < other.hyphenated := by
  have hpadded {n : Nat} : ∀ c ∈ padded 2 n, c.isDigit = true := fun c => isDigit_of_mem_padded
  have hyears : (decimal date.year).length = (decimal other.year).length := by
    rw [length_hyphenated h, length_hyphenated hother] at hlength
    exact Nat.add_right_cancel hlength
  have hmonths : (padded 2 date.month).length = (padded 2 other.month).length := by
    rw [length_padded Nat.two_pos h.month_lt_hundred,
      length_padded Nat.two_pos hother.month_lt_hundred]
  have hdays : (padded 2 date.day).length = (padded 2 other.day).length := by
    rw [length_padded Nat.two_pos h.day_lt_hundred, length_padded Nat.two_pos hother.day_lt_hundred]
  simp only [hyphenated, List.append_assoc, List.cons_append]
  rcases hbefore with hyear | ⟨hyear, hmonth | ⟨hmonth, hday⟩⟩
  · refine append_lt_append hyears (fun c => isDigit_of_mem_decimal)
      (fun c => isDigit_of_mem_decimal) ?_ _ _
    rwa [natOfDigits_decimal, natOfDigits_decimal]
  · rw [hyear]
    refine List.append_left_lt (.cons (append_lt_append hmonths hpadded hpadded ?_ _ _))
    rwa [natOfDigits_padded, natOfDigits_padded]
  · rw [hyear, hmonth]
    refine List.append_left_lt (.cons (List.append_left_lt (.cons ?_)))
    have hless := append_lt_append hdays hpadded hpadded (by
      rwa [natOfDigits_padded, natOfDigits_padded]) [] []
    rwa [List.append_nil, List.append_nil] at hless

end Date

/-! ## Offsets -/

namespace Generator

/-- The sign of a number of days. -/
def signOf (days : Int) : Char :=
  if days < 0 then '-' else '+'

/-- A number of days with its sign. -/
def signedDays (days : Int) : List Char :=
  signOf days :: decimal days.natAbs

theorem isOffset_signedDays (days : Int) :
    IsOffset (signedDays days) (signOf days) (decimal days.natAbs) where
  isSign := by
    unfold signOf
    split
    · exact .inr rfl
    · exact .inl rfl
  ne_nil := decimal_ne_nil _
  allDigits := fun _ hc => (isDigit_spec (isDigit_of_mem_decimal hc)).1
  written := .inl rfl

theorem offsetDays_signOf (days : Int) : offsetDays (signOf days) (decimal days.natAbs) = days := by
  rw [offsetDays, natOfDigits_decimal, signOf]
  split
  · rw [if_pos rfl]
    omega
  · rw [if_neg (by decide)]
    omega

theorem readInt?_signedDays {days : Int} (h : days.natAbs < 10 ^ 7) :
    readInt? (signedDays days) = some days := by
  have hlength : (decimal days.natAbs).length ≤ digitLimit :=
    ((length_decimal_le_iff (by decide)).mpr h).trans (by decide)
  rw [(isOffset_signedDays days).readInt?_eq, if_pos hlength, offsetDays_signOf]

/-- The arguments of a call end at no colon of an offset, for there is none. -/
theorem colon_not_mem_signedDays (days : Int) : ':' ∉ signedDays days := by
  intro hmem
  rcases List.mem_cons.mp hmem with hsign | hdigit
  · unfold signOf at hsign
    split at hsign <;> simp at hsign
  · have hcolon := isDigit_of_mem_decimal hdigit
    exact absurd hcolon (by decide)

section Offset

variable {clock days : Int} {today date : Date}
  (htoday : Moment.firstDay.IsAfter (clock.fdiv 86400000) today) (hclock : today.isPossible = true)
  (hafter : today.IsAfter days date) (hdate : date.isPossible = true)

include htoday hclock hafter hdate

theorem formattedDate_signedDays :
    formattedDate clock [signedDays days] = .ok date.hyphenated := by
  obtain ⟨now, hnow, rfl⟩ := Moment.exists_ofMilliseconds_eq htoday hclock
  have hnear : days.natAbs < 10 ^ 7 := by
    have hnumber := (Date.isAfter_iff hclock hdate).mp hafter
    have hstart := Date.isNumber_toNumber hclock
    have hend := Date.isNumber_toNumber hdate
    simp only [Date.IsNumber, Date.lastNumber] at hstart hend
    omega
  have hoffset : isOffset (signedDays days) = true :=
    isOffset_iff.mpr ⟨_, _, isOffset_signedDays days⟩
  have hmoved := Date.addDays_of_isAfter hclock hdate hafter
  have hformat (moment : Moment) :
      moment.format "YYYY-MM-DD".toList = moment.date.hyphenated := by
    simp [Moment.format, Date.hyphenated]
  simp only [formattedDate, hnow, hoffset, readInt?_signedDays hnear, bind, Except.bind, pure,
    Except.pure, hmoved, if_true, List.isEmpty_nil, hformat]

/-- What is written for an offset is the date that lies so many days after the day of the clock. -/
theorem on_generate?_signedDays (dice : Dice) :
    (generate? clock ("$date:".toList ++ signedDays days)).on dice =
      (.ok (some date.hyphenated), dice) := by
  have hcall : generate? clock ("$date:".toList ++ signedDays days) =
      return some (← generate clock (pieces ':' (signedDays days)) .date) :=
    generate?_name_append .date clock (signedDays days)
  have hmade : (generate clock [signedDays days] .date).on dice = (.ok date.hyphenated, dice) := by
    rw [← formattedDate_signedDays htoday hclock hafter hdate]
    exact Chance.on_lift _
  rw [hcall, pieces_of_not_mem (colon_not_mem_signedDays days), Chance.on_bind, hmade]
  rfl

/-- **The date at a day offset.** On the calendar, the text for an offset is the date that lies so
many days after the day of the clock. It has ten characters from the year 1000 on, and fewer before,
since the year is not padded. Of two offsets whose texts have one length the smaller offset has the
text that comes first. -/
theorem generate?_signedDays :
    ∃ text, (∀ dice, (generate? clock ("$date:".toList ++ signedDays days)).on dice =
        (.ok (some text), dice)) ∧
      date.IsSpelt text ∧ (text.length = 10 ↔ 1000 ≤ date.year) ∧
      ∀ (more : Int) (later : Date) (other : List Char), days < more → today.IsAfter more later →
        later.isPossible = true →
        (∃ dice, ((generate? clock ("$date:".toList ++ signedDays more)).on dice).1 =
          .ok (some other)) → text.length = other.length → text < other := by
  have hproper := Date.isDate_of_isPossible hdate
  refine ⟨date.hyphenated, on_generate?_signedDays htoday hclock hafter hdate,
    Date.isSpelt_hyphenated hproper, Date.length_hyphenated_eq_ten_iff hdate, ?_⟩
  rintro more later other hless hmore hlater ⟨dice, hother⟩ hlength
  rw [on_generate?_signedDays htoday hclock hmore hlater] at hother
  obtain rfl := Option.some.inj (Except.ok.inj hother)
  have hproper' := Date.isDate_of_isPossible hlater
  have hnumber := (Date.isAfter_iff hclock hdate).mp hafter
  have hnumber' := (Date.isAfter_iff hclock hlater).mp hmore
  have hbefore := hproper.before_of_toNumber_lt hproper' (by omega)
  exact Date.hyphenated_lt hproper hproper' hbefore hlength

end Offset

/-- A day in the autumn of 2023. -/
def autumnDay : Date := ⟨2023, 11, 14⟩

theorem isPossible_autumnDay : autumnDay.isPossible = true := by decide

theorem isAfter_autumnDay :
    Moment.firstDay.IsAfter ((1700000000123 : Int).fdiv 86400000) autumnDay :=
  (Date.isAfter_iff (by decide) isPossible_autumnDay).mpr (by decide)

theorem generate?_leapDay :
    ∃ text, (∀ dice, (generate? 1700000000123 "$date:+107".toList).on dice =
        (.ok (some text), dice)) ∧ (⟨2024, 2, 29⟩ : Date).IsSpelt text ∧ text.length = 10 := by
  have hpossible : (⟨2024, 2, 29⟩ : Date).isPossible = true := by decide
  have hafter : autumnDay.IsAfter 107 ⟨2024, 2, 29⟩ :=
    (Date.isAfter_iff isPossible_autumnDay hpossible).mpr (by decide)
  have hcall : "$date:".toList ++ signedDays 107 = "$date:+107".toList := by decide
  obtain ⟨text, hon, hspelt, hten, -⟩ :=
    generate?_signedDays isAfter_autumnDay isPossible_autumnDay hafter hpossible
  rw [hcall] at hon
  exact ⟨text, hon, hspelt, hten.mpr (by decide)⟩

/-- The text of a day in the year 928 has nine characters. -/
theorem generate?_earlyYear :
    Moment.firstDay.IsAfter ((1700000000123 : Int).fdiv 86400000) autumnDay ∧
      autumnDay.IsAfter (-400000) ⟨928, 9, 15⟩ ∧ (⟨928, 9, 15⟩ : Date).isPossible = true ∧
      (∀ dice, (generate? 1700000000123 "$date:-400000".toList).on dice =
        (.ok (some "928-09-15".toList), dice)) ∧ "928-09-15".toList.length ≠ 10 := by
  have hpossible : (⟨928, 9, 15⟩ : Date).isPossible = true := by decide
  have hafter : autumnDay.IsAfter (-400000) ⟨928, 9, 15⟩ :=
    (Date.isAfter_iff isPossible_autumnDay hpossible).mpr (by decide)
  have hcall : "$date:".toList ++ signedDays (-400000) = "$date:-400000".toList := by decide
  have htext : (⟨928, 9, 15⟩ : Date).hyphenated = "928-09-15".toList := by decide
  refine ⟨isAfter_autumnDay, hafter, hpossible, fun dice => ?_, by decide⟩
  rw [← hcall, ← htext]
  exact on_generate?_signedDays isAfter_autumnDay isPossible_autumnDay hafter hpossible dice

end Generator

end RequestScript
