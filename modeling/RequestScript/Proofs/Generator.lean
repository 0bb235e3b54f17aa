import RequestScript.Generator.Generate
import RequestScript.Proofs.Calendar
import RequestScript.Proofs.Chance
import RequestScript.Proofs.Text.Numeral

/-!
# Calls of generators that fail

Arguments that cannot be read count as absent. Only a few calls fail: those that ask for a date
that is not on the calendar, for a day offset with too many digits, and for more decimal places
than a text can have. Whether a call fails does not depend on what is drawn.
-/

namespace RequestScript

open Text

namespace Generator

/-! ## Day offsets -/

/-- An argument is a day offset: a sign and digits of any script, and perhaps a line feed. -/
structure IsOffset (argument : List Char) (sign : Char) (digits : List Char) : Prop where
  /-- The sign is a plus or a minus. -/
  isSign : sign = '+' ∨ sign = '-'
  /-- There are digits. -/
  ne_nil : digits ≠ []
  /-- There is nothing else between the sign and the line feed. -/
  allDigits : ∀ c ∈ digits, isDigit c = true
  /-- The argument is written in this way. -/
  written : argument = sign :: digits ∨ argument = sign :: digits ++ ['\n']

/-- The number of days of an offset. -/
def offsetDays (sign : Char) (digits : List Char) : Int :=
  if sign = '-' then -(natOfDigits digits : Int) else natOfDigits digits

section Offset

variable {argument digits : List Char} {sign : Char}

theorem IsOffset.getLast? (h : IsOffset argument sign digits) :
    ∀ c ∈ (sign :: digits).getLast?, isBlank c = false := by
  intro c hc
  rw [List.getLast?_cons_of_ne_nil h.ne_nil] at hc
  exact isBlank_of_isDigit (h.allDigits c (List.mem_of_getLast? hc))

theorem IsOffset.dropFinalLineFeed (h : IsOffset argument sign digits) :
    dropFinalLineFeed argument = sign :: digits := by
  rcases h.written with rfl | rfl
  · exact dropFinalLineFeed_of_getLast? fun hlast => absurd (h.getLast? '\n' hlast) (by decide)
  · exact dropFinalLineFeed_concat _

/-- An offset has one sign and one text of digits. -/
theorem IsOffset.unique {otherSign : Char} {otherDigits : List Char}
    (h : IsOffset argument sign digits) (hother : IsOffset argument otherSign otherDigits) :
    otherSign = sign ∧ otherDigits = digits :=
  List.cons.inj (hother.dropFinalLineFeed.symm.trans h.dropFinalLineFeed)

theorem isOffset_iff : isOffset argument = true ↔ ∃ sign digits, IsOffset argument sign digits := by
  constructor
  · intro h
    obtain ⟨sign, digits, hdrop, hsign, hdigits⟩ : ∃ sign digits,
        Text.dropFinalLineFeed argument = sign :: digits ∧ (sign = '+' ∨ sign = '-') ∧
          isAll isDigit digits = true := by
      unfold isOffset at h
      split at h
      · next digits hdrop => exact ⟨'+', digits, hdrop, .inl rfl, h⟩
      · next digits hdrop => exact ⟨'-', digits, hdrop, .inr rfl, h⟩
      · cases h
    obtain ⟨hne, hall⟩ := isAll_iff.mp hdigits
    refine ⟨sign, digits, hsign, hne, hall, ?_⟩
    by_cases hlast : argument.getLast? = some '\n'
    · obtain ⟨front, rfl⟩ := List.getLast?_eq_some_iff.mp hlast
      exact .inr (by rw [← hdrop, dropFinalLineFeed_concat])
    · exact .inl (by rw [← hdrop, dropFinalLineFeed_of_getLast? hlast])
  · rintro ⟨sign, digits, h⟩
    have hall : isAll isDigit digits = true := isAll_iff.mpr ⟨h.ne_nil, h.allDigits⟩
    rw [isOffset, h.dropFinalLineFeed]
    rcases h.isSign with rfl | rfl <;> exact hall

/-- An offset is a numeral, which can be read unless it has too many digits. -/
theorem IsOffset.readInt?_eq (h : IsOffset argument sign digits) :
    readInt? argument =
      if digits.length ≤ digitLimit then some (offsetDays sign digits) else none := by
  have hsign : isNumeralBlank sign = false := by rcases h.isSign with rfl | rfl <;> decide
  have hback : (sign :: digits).reverse.dropWhile isNumeralBlank = (sign :: digits).reverse :=
    dropWhile_isNumeralBlank (by simpa only [List.head?_reverse] using h.getLast?)
  have htrim : trimNumeral argument = sign :: digits := by
    have hfeed : isNumeralBlank '\n' = true := by decide
    rcases h.written with rfl | rfl
    · rw [trimNumeral, List.dropWhile_cons_of_neg (by simp [hsign]), hback, List.reverse_reverse]
    · rw [trimNumeral, List.cons_append, List.dropWhile_cons_of_neg (by simp [hsign]),
        ← List.cons_append, List.reverse_concat, List.dropWhile_cons_of_pos hfeed, hback,
        List.reverse_reverse]
  rcases h.isSign with rfl | rfl
  · rw [readInt?_of_takeSign (by rw [htrim]; rfl) h.ne_nil h.allDigits]
    rfl
  · rw [readInt?_of_takeSign (by rw [htrim]; rfl) h.ne_nil h.allDigits]
    rfl

end Offset

/-! ## Calls -/

/-- A call of a generator fails. -/
inductive Fails (clock : Int) : Generator → List (List Char) → Fault → Prop
  /-- It asks for the date, and the clock is not on the calendar. -/
  | clock {generator : Generator} {arguments : List (List Char)} :
      generator ∈ [.isoTimestamp, .localTimestamp, .date] →
      ¬Date.IsNumber (Moment.dayNumber clock) → Fails clock generator arguments .dateOutOfRange
  /-- It asks for the date at an offset with too many digits. -/
  | numeral {argument digits : List Char} {sign : Char} {format : List (List Char)} :
      Date.IsNumber (Moment.dayNumber clock) → IsOffset argument sign digits →
      digitLimit < digits.length → Fails clock .date (argument :: format) .numeralTooLong
  /-- It asks for a date that is not on the calendar. -/
  | date {argument digits : List Char} {sign : Char} {format : List (List Char)} :
      Date.IsNumber (Moment.dayNumber clock) → IsOffset argument sign digits →
      digits.length ≤ digitLimit →
      ¬Date.IsNumber (Moment.dayNumber clock + offsetDays sign digits) →
      Fails clock .date (argument :: format) .dateOutOfRange
  /-- Behind the bounds of a decimal it asks for more places than a text can have. -/
  | places {arguments rest : List (List Char)} {argument : List Char} {low high : Double}
      {count : Int} :
      bounds? Double.read? (.zero false) (.ofQuotient false 1 1) arguments =
        some (low, high, argument :: rest) →
      readInt? argument = some count → placesLimit < count →
      Fails clock .randomFloat arguments .tooManyPlaces

variable {clock : Int} {arguments : List (List Char)} {fault : Fault} {dice : Dice}

section Calendar

variable (hclock : Date.IsNumber (Moment.dayNumber clock))

include hclock

/-- On the calendar a date without an offset can be given. -/
theorem not_fails_date (h : ∀ argument ∈ arguments.head?, isOffset argument = false) :
    ¬Fails clock .date arguments fault := by
  intro hfails
  cases hfails with
  | clock _ hout => exact hout hclock
  | numeral _ hoffset | date _ hoffset =>
    have hfalse := h _ rfl
    rw [isOffset_iff.mpr ⟨_, _, hoffset⟩] at hfalse
    cases hfalse

/-- On the calendar a date at an offset cannot be given where the offset has too many digits, or
leads out of the calendar. -/
theorem fails_date_iff {argument digits : List Char} {sign : Char} {format : List (List Char)}
    (h : IsOffset argument sign digits) :
    Fails clock .date (argument :: format) fault ↔
      if digits.length ≤ digitLimit then
        fault = .dateOutOfRange ∧
          ¬Date.IsNumber (Moment.dayNumber clock + offsetDays sign digits)
      else fault = .numeralTooLong := by
  constructor
  · intro hfails
    cases hfails with
    | clock _ hout => exact absurd hclock hout
    | numeral _ hoffset hlong =>
      obtain ⟨rfl, rfl⟩ := h.unique hoffset
      rw [if_neg (Nat.not_le.mpr hlong)]
    | date _ hoffset hshort hout =>
      obtain ⟨rfl, rfl⟩ := h.unique hoffset
      rw [if_pos hshort]
      exact ⟨rfl, hout⟩
  · split
    · next hshort =>
      rintro ⟨rfl, hout⟩
      exact .date hclock h hshort hout
    · next hlong =>
      rintro rfl
      exact .numeral hclock h (Nat.not_le.mp hlong)

end Calendar

theorem formattedDate_eq_error_iff :
    formattedDate clock arguments = .error fault ↔ Fails clock .date arguments fault := by
  unfold formattedDate
  cases hnow : Moment.ofMilliseconds clock with
  | error other =>
    obtain ⟨rfl, hout⟩ := Moment.ofMilliseconds_eq_error_iff.mp hnow
    constructor
    · intro h
      obtain rfl := Except.error.inj h
      exact .clock (by decide) hout
    · intro h
      cases h with
      | clock => rfl
      | numeral hclock | date hclock => exact absurd hclock hout
  | ok now =>
    have hclock : Date.IsNumber (Moment.dayNumber clock) := by
      by_contra hout
      rw [Moment.ofMilliseconds_eq_error_iff.mpr ⟨rfl, hout⟩] at hnow
      cases hnow
    have hday := Moment.toNumber_of_ofMilliseconds hnow
    cases arguments with
    | nil =>
      exact ⟨nofun, fun h => absurd h (not_fails_date hclock nofun)⟩
    | cons argument format =>
      by_cases hargument : isOffset argument = true
      · obtain ⟨sign, digits, hoffset⟩ := isOffset_iff.mp hargument
        rw [fails_date_iff hclock hoffset]
        rw [← hday, ← Date.addDays_eq_error_iff (hday ▸ hclock)]
        simp only [bind, Except.bind, hargument, if_true, hoffset.readInt?_eq]
        by_cases hshort : digits.length ≤ digitLimit
        · simp only [if_pos hshort]
          cases now.date.addDays (offsetDays sign digits) with
          | error other => simp only [Except.error.injEq]
          | ok moved => exact ⟨nofun, nofun⟩
        · simp only [if_neg hshort]
          exact ⟨fun h => (Except.error.inj h).symm, fun h => h ▸ rfl⟩
      · have hok : ∀ fault, ¬Fails clock .date (argument :: format) fault := fun fault =>
          not_fails_date hclock (by simpa using hargument)
        simp only [bind, Except.bind, hargument, hok, iff_false]
        exact nofun

/-- The places of a decimal are too many where the argument behind the bounds says so. -/
theorem placesLimit_lt_iff {rest : List (List Char)} :
    placesLimit < places rest ↔ ∃ argument more count, rest = argument :: more ∧
      readInt? argument = some count ∧ placesLimit < count := by
  cases rest with
  | nil => simp [places, placesLimit]
  | cons argument more =>
    cases hread : readInt? argument with
    | none => simp [places, hread, placesLimit]
    | some count => simp [places, hread, placesLimit]

theorem fails_randomFloat_iff :
    Fails clock .randomFloat arguments fault ↔
      fault = .tooManyPlaces ∧ ∃ low high rest,
        bounds? Double.read? (.zero false) (.ofQuotient false 1 1) arguments =
          some (low, high, rest) ∧ placesLimit < places rest := by
  simp only [placesLimit_lt_iff]
  constructor
  · intro h
    cases h with
    | clock hgenerator => exact absurd hgenerator (by decide)
    | places hbounds hread hmany => exact ⟨rfl, _, _, _, hbounds, _, _, _, rfl, hread, hmany⟩
  · rintro ⟨rfl, low, high, rest, hbounds, argument, more, count, rfl, hread, hmany⟩
    exact .places hbounds hread hmany

theorem randomDecimal_eq_error_iff :
    ((randomDecimal arguments).on dice).1 = .error fault ↔
      Fails clock .randomFloat arguments fault := by
  have hunit : randomUnit.Total := (Chance.total_below _).bind fun _ => Chance.total_pure _
  have hshort : ¬placesLimit < places [] := by simp [places, placesLimit]
  rw [fails_randomFloat_iff]
  unfold randomDecimal
  refine hunit.bind_eq_error_iff fun unit after => ?_
  dsimp only
  cases bounds? Double.read? (.zero false) (.ofQuotient false 1 1) arguments with
  | none => simp [hshort, Chance.on_pure]
  | some found =>
    obtain ⟨low, high, rest⟩ := found
    by_cases hmany : placesLimit < places rest
    · simp [hmany, Chance.on_throw, eq_comm]
    · simp [hmany, Chance.on_pure]

/-- Nothing stops the other generators. -/
theorem total_generate {generator : Generator}
    (h : generator ∉ [.isoTimestamp, .localTimestamp, .date, .randomFloat]) :
    (generate clock arguments generator).Total := by
  cases generator with
  | isoTimestamp | localTimestamp | date | randomFloat => exact absurd (by decide) h
  | timestamp | timestampMs | env => exact Chance.total_pure _
  | uuid | guid | uuidV4 => exact Chance.total_randomIdentifier
  | uuidV1 =>
    exact (Chance.total_characters _ _).bind fun _ => (Chance.total_characters _ _).bind fun _ =>
      (Chance.total_characters _ _).bind fun _ => Chance.total_pure _
  | randomInt => exact (Chance.total_between _ _).bind fun _ => Chance.total_pure _
  | randomString | randomHex => exact Chance.total_characters _ _
  | randomEmail => exact (Chance.total_characters _ _).bind fun _ => Chance.total_pure _
  | randomBoolean => exact (Chance.total_below _).bind fun _ => Chance.total_pure _
  | enum =>
    rw [generate]
    cases enumValues (join [':'] arguments) with
    | nil => exact Chance.total_pure _
    | cons first rest => exact Chance.total_pick _ _

/-- A moment fails to be given where the clock is not on the calendar. -/
theorem fails_timestamp_iff {generator : Generator}
    (h : generator = .isoTimestamp ∨ generator = .localTimestamp) :
    Fails clock generator arguments fault ↔
      Moment.ofMilliseconds clock = .error fault := by
  rw [Moment.ofMilliseconds_eq_error_iff]
  constructor
  · intro hfails
    cases hfails with
    | clock _ hout => exact ⟨rfl, hout⟩
    | numeral | date | places => simp at h
  · rintro ⟨rfl, hout⟩
    exact .clock (by rcases h with rfl | rfl <;> decide) hout

/-- **Which calls of generators fail**, whatever is drawn. -/
theorem generate_eq_error_iff (generator : Generator) :
    ((generate clock arguments generator).on dice).1 = .error fault ↔
      Fails clock generator arguments fault := by
  by_cases hfails : generator ∈ [.isoTimestamp, .localTimestamp, .date, .randomFloat]
  · have hmoment : ∀ shown : Moment → List Char,
        ((do return shown (← Moment.ofMilliseconds clock) : Chance (List Char)).on dice).1 =
          .error fault ↔ Moment.ofMilliseconds clock = .error fault := by
      intro shown
      rw [Chance.on_bind, Chance.on_lift]
      cases Moment.ofMilliseconds clock <;> simp [Chance.on_pure]
    simp only [List.mem_cons, List.not_mem_nil, or_false] at hfails
    rcases hfails with rfl | rfl | rfl | rfl
    · exact (hmoment (·.utcText.toList)).trans (fails_timestamp_iff (.inl rfl)).symm
    · exact (hmoment (·.localText.toList)).trans (fails_timestamp_iff (.inr rfl)).symm
    · have hdate : ((generate clock arguments .date).on dice).1 = formattedDate clock arguments :=
        congrArg Prod.fst (Chance.on_lift _)
      rw [hdate, formattedDate_eq_error_iff]
    · exact randomDecimal_eq_error_iff
  · have hnone : ¬Fails clock generator arguments fault := by
      intro h
      cases h with
      | clock hgenerator => simp_all
      | numeral | date | places => simp at hfails
    exact iff_of_false ((total_generate hfails).ne_error fault) hnone

/-! ## Texts that call a generator -/

theorem colon_not_mem_name (generator : Generator) : ':' ∉ generator.name.toList := by
  cases generator <;> decide

/-- What stands behind the name and a colon is cut into arguments at each further colon. -/
theorem generate?_name_append (generator : Generator) (clock : Int) (text : List Char) :
    generate? clock (generator.name.toList ++ ':' :: text) =
      return some (← generate clock (pieces ':' text) generator) := by
  have hcall : call? (generator.name.toList ++ ':' :: text) =
      some (generator, pieces ':' text) := by
    rw [call?, pieces_append, pieces_of_not_mem generator.colon_not_mem_name]
    simp [ofName?_name]
  rw [generate?, hcall]

end Generator

end RequestScript
