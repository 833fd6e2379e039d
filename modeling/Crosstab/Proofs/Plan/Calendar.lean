import Crosstab.Proofs.Plan.DateText
import Crosstab.Proofs.Text.Numeral
import Mathlib.Data.List.Basic

/-!
Dates of the calendar. Days are those that their months have, in leap years and in others, and a
time of day has its hour, minute and second in range. Written in ASCII digits they have the form of
dates, but not every text of that form is one of them.
-/

namespace Crosstab

open Crosstab.Text

def isLeapYear (year : Nat) : Bool := year % 4 == 0 && (year % 100 != 0 || year % 400 == 0)

def daysInMonth (year month : Nat) : Nat :=
  if month = 2 then if isLeapYear year then 29 else 28
  else if month ∈ [4, 6, 9, 11] then 30
  else 31

theorem daysInMonth_le (year month : Nat) : daysInMonth year month ≤ 31 := by
  unfold daysInMonth
  split_ifs <;> decide

/-- A day that the calendar has, in a year of four digits. -/
structure CalendarDay where
  year : Nat
  month : Nat
  day : Nat
  year_lt : year < 10000
  month_pos : 0 < month
  month_le : month ≤ 12
  day_pos : 0 < day
  day_le : day ≤ daysInMonth year month

/-- A second of a minute, with the digits of its fraction if there are any. -/
structure ClockSecond where
  second : Fin 60
  fraction : List (Fin 10)

/-- A time of day, to the minute or to a second. -/
structure ClockTime where
  hour : Fin 24
  minute : Fin 60
  second : Option ClockSecond

/-- What sets off a time from its day. -/
inductive ClockMark where
  | space
  | letter

/-- A day of the calendar, perhaps with a time of that day. -/
structure CalendarDate where
  day : CalendarDay
  time : Option (ClockMark × ClockTime)

def CalendarDay.text (d : CalendarDay) : List Char :=
  padded 4 d.year ++ '-' :: (padded 2 d.month ++ '-' :: padded 2 d.day)

/-- Nothing, or a point and digits. -/
def fractionText (digits : List (Fin 10)) : List Char :=
  if digits = [] then [] else '.' :: digits.map fun d => Nat.digitChar d.val

def secondText : Option ClockSecond → List Char
  | none => []
  | some s => ':' :: (padded 2 s.second ++ fractionText s.fraction)

def ClockTime.text (time : ClockTime) : List Char :=
  padded 2 time.hour ++ ':' :: (padded 2 time.minute ++ secondText time.second)

def ClockMark.char : ClockMark → Char
  | .space => ' '
  | .letter => 'T'

def CalendarDate.text (date : CalendarDate) : List Char :=
  date.day.text ++ match date.time with
    | none => []
    | some (mark, time) => mark.char :: time.text

/-- A text that writes a date of the calendar. -/
def IsCalendarDate (cs : List Char) : Prop := ∃ date : CalendarDate, date.text = cs

/-- The number in so many characters from a place on. -/
def fieldAt (cs : List Char) (start count : Nat) : Nat := natOfDigits ((cs.drop start).take count)

/-- Fields within the ranges of the calendar. Those that a text is too short for count as zero. -/
structure WithinCalendar (cs : List Char) : Prop where
  month : 0 < fieldAt cs 5 2 ∧ fieldAt cs 5 2 ≤ 12
  day : 0 < fieldAt cs 8 2 ∧ fieldAt cs 8 2 ≤ daysInMonth (fieldAt cs 0 4) (fieldAt cs 5 2)
  hour : fieldAt cs 11 2 < 24
  minute : fieldAt cs 14 2 < 60
  second : fieldAt cs 17 2 < 60

/-- Texts of ASCII characters only. -/
def IsAscii (cs : List Char) : Prop := ∀ c ∈ cs, c.toNat < 128

instance (cs : List Char) : Decidable (WithinCalendar cs) :=
  decidable_of_iff ((0 < fieldAt cs 5 2 ∧ fieldAt cs 5 2 ≤ 12) ∧
      (0 < fieldAt cs 8 2 ∧ fieldAt cs 8 2 ≤ daysInMonth (fieldAt cs 0 4) (fieldAt cs 5 2)) ∧
      fieldAt cs 11 2 < 24 ∧ fieldAt cs 14 2 < 60 ∧ fieldAt cs 17 2 < 60)
    ⟨fun ⟨hMonth, hDay, hHour, hMinute, hSecond⟩ => ⟨hMonth, hDay, hHour, hMinute, hSecond⟩,
      fun ⟨hMonth, hDay, hHour, hMinute, hSecond⟩ => ⟨hMonth, hDay, hHour, hMinute, hSecond⟩⟩

instance (cs : List Char) : Decidable (IsAscii cs) := List.decidableBAll _ cs

theorem isAscii_append {xs ys : List Char} : IsAscii (xs ++ ys) ↔ IsAscii xs ∧ IsAscii ys :=
  List.forall_mem_append

theorem isAscii_cons {c : Char} {cs : List Char} : IsAscii (c :: cs) ↔ c.toNat < 128 ∧ IsAscii cs :=
  List.forall_mem_cons

theorem isAscii_padded (width n : Nat) : IsAscii (padded width n) :=
  fun _ hMem => lt_of_isAsciiDigit (isAsciiDigit_of_mem_padded hMem)

/-- ASCII digits are digits of some script. -/
theorem isDigits_of_isAsciiDigit {cs : List Char} (h : ∀ c ∈ cs, isAsciiDigit c) :
    IsDigits cs.length cs :=
  ⟨rfl, fun c hMem =>
    (isDecimalDigit_iff_of_ascii (lt_of_isAsciiDigit (h c hMem))).mpr (h c hMem)⟩

theorem isDigits_padded (width n : Nat) : IsDigits width (padded width n) := by
  have hDigits := isDigits_of_isAsciiDigit fun c (hMem : c ∈ padded width n) =>
    isAsciiDigit_of_mem_padded hMem
  rwa [length_padded] at hDigits

/-- Digits of any script that are ASCII characters are ASCII digits. -/
theorem IsDigits.isAsciiDigit {width : Nat} {cs : List Char} (h : IsDigits width cs)
    (hAscii : IsAscii cs) : ∀ c ∈ cs, isAsciiDigit c :=
  fun c hMem => (isDecimalDigit_iff_of_ascii (hAscii c hMem)).mp (h.2 c hMem)

/-- A field of ASCII digits is the number that it denotes, written in its width. -/
theorem IsDigits.padded_eq {width : Nat} {cs : List Char} (h : IsDigits width cs)
    (hAscii : IsAscii cs) : padded width (natOfDigits cs) = cs := by
  have hPadded := padded_natOfDigits (h.isAsciiDigit hAscii)
  rwa [h.1] at hPadded

section Fields

variable {year month day hour minute second rest : List Char}

/-- Where the fields of a day stand. -/
theorem fieldAt_day (hYear : year.length = 4) (hMonth : month.length = 2) (hDay : day.length = 2) :
    fieldAt (year ++ '-' :: (month ++ '-' :: day) ++ rest) 0 4 = natOfDigits year ∧
    fieldAt (year ++ '-' :: (month ++ '-' :: day) ++ rest) 5 2 = natOfDigits month ∧
    fieldAt (year ++ '-' :: (month ++ '-' :: day) ++ rest) 8 2 = natOfDigits day ∧
    ∀ start count, fieldAt (year ++ '-' :: (month ++ '-' :: day) ++ rest) (start + 10) count =
      fieldAt rest start count := by
  obtain ⟨_, _, _, _, rfl⟩ := List.length_eq_four.mp hYear
  obtain ⟨_, _, rfl⟩ := List.length_eq_two.mp hMonth
  obtain ⟨_, _, rfl⟩ := List.length_eq_two.mp hDay
  exact ⟨rfl, rfl, rfl, fun start count => rfl⟩

/-- Where the fields of a time stand. -/
theorem fieldAt_time (hHour : hour.length = 2) (hMinute : minute.length = 2) :
    fieldAt (hour ++ ':' :: (minute ++ rest)) 0 2 = natOfDigits hour ∧
    fieldAt (hour ++ ':' :: (minute ++ rest)) 3 2 = natOfDigits minute ∧
    ∀ start count, fieldAt (hour ++ ':' :: (minute ++ rest)) (start + 5) count =
      fieldAt rest start count := by
  obtain ⟨_, _, rfl⟩ := List.length_eq_two.mp hHour
  obtain ⟨_, _, rfl⟩ := List.length_eq_two.mp hMinute
  exact ⟨rfl, rfl, fun start count => rfl⟩

theorem fieldAt_second (hSecond : second.length = 2) :
    fieldAt (':' :: (second ++ rest)) 1 2 = natOfDigits second := by
  obtain ⟨_, _, rfl⟩ := List.length_eq_two.mp hSecond
  rfl

/-- In fields of the right width, the ranges are those of month and day. -/
theorem withinCalendar_iff (hYear : year.length = 4) (hMonth : month.length = 2)
    (hDay : day.length = 2) : WithinCalendar (year ++ '-' :: (month ++ '-' :: day) ++ rest) ↔
      (0 < natOfDigits month ∧ natOfDigits month ≤ 12) ∧
      (0 < natOfDigits day ∧ natOfDigits day ≤ daysInMonth (natOfDigits year) (natOfDigits month)) ∧
      fieldAt rest 1 2 < 24 ∧ fieldAt rest 4 2 < 60 ∧ fieldAt rest 7 2 < 60 := by
  obtain ⟨hYearAt, hMonthAt, hDayAt, hRest⟩ := @fieldAt_day year month day rest hYear hMonth hDay
  constructor
  · rintro ⟨hMonths, hDays, hHours, hMinutes, hSeconds⟩
    rw [hMonthAt] at hMonths
    rw [hDayAt, hYearAt, hMonthAt] at hDays
    exact ⟨hMonths, hDays, hRest 1 2 ▸ hHours, hRest 4 2 ▸ hMinutes, hRest 7 2 ▸ hSeconds⟩
  · rintro ⟨hMonths, hDays, hHours, hMinutes, hSeconds⟩
    exact {
      month := hMonthAt ▸ hMonths
      day := by rwa [hDayAt, hYearAt, hMonthAt]
      hour := (hRest 1 2).symm ▸ hHours
      minute := (hRest 4 2).symm ▸ hMinutes
      second := (hRest 7 2).symm ▸ hSeconds }

end Fields

theorem natOfDigits_padded_fin {bound : Nat} (n : Fin bound) (h : bound ≤ 100) :
    natOfDigits (padded 2 n) = n :=
  natOfDigits_padded (Nat.lt_of_lt_of_le n.isLt h)

namespace CalendarDay

variable (d : CalendarDay)

/-- A day of the calendar is written in the form of days. -/
theorem isDay_text : IsDay d.text :=
  .intro (isDigits_padded 4 d.year) (isDigits_padded 2 d.month) (isDigits_padded 2 d.day)

theorem isAscii_text : IsAscii d.text := by
  simp [text, isAscii_append, isAscii_cons, isAscii_padded]

/-- The fields of a day are read from its text. -/
theorem natOfDigits_fields : natOfDigits (padded 4 d.year) = d.year ∧
    natOfDigits (padded 2 d.month) = d.month ∧ natOfDigits (padded 2 d.day) = d.day := by
  have hMonth := d.month_le
  have hDay := Nat.le_trans d.day_le (daysInMonth_le d.year d.month)
  exact ⟨natOfDigits_padded d.year_lt, natOfDigits_padded (by omega), natOfDigits_padded (by omega)⟩

end CalendarDay

namespace ClockTime

theorem isAsciiDigit_of_mem_digits {digits : List (Fin 10)} {c : Char}
    (h : c ∈ digits.map fun d => Nat.digitChar d.val) : isAsciiDigit c := by
  obtain ⟨d, -, rfl⟩ := List.mem_map.mp h
  exact isAsciiDigit_digitChar d.isLt

/-- A time of day is written in the form of times. -/
theorem isTime_text (time : ClockTime) : IsTime time.text := by
  have hHour := isDigits_padded 2 time.hour
  have hMinute := isDigits_padded 2 time.minute
  unfold text
  cases time.second with
  | none => simpa [secondText] using IsTime.minute hHour hMinute
  | some s =>
      have hSecond := isDigits_padded 2 s.second
      by_cases hFraction : s.fraction = []
      · simpa [secondText, fractionText, hFraction] using IsTime.second hHour hMinute hSecond
      · rw [secondText, fractionText, if_neg hFraction]
        refine .fraction hHour hMinute hSecond
          (isDigits_of_isAsciiDigit fun c hMem => isAsciiDigit_of_mem_digits hMem) ?_
        simpa using hFraction

theorem isAscii_secondText (second : Option ClockSecond) : IsAscii (secondText second) := by
  cases second with
  | none => simp [secondText, IsAscii]
  | some s =>
      have hDigits : IsAscii (s.fraction.map fun d => Nat.digitChar d.val) :=
        fun c hMem => lt_of_isAsciiDigit (isAsciiDigit_of_mem_digits hMem)
      have hFraction : IsAscii (fractionText s.fraction) := by
        unfold fractionText
        split
        · simp [IsAscii]
        · exact isAscii_cons.mpr ⟨by decide, hDigits⟩
      simp [secondText, isAscii_append, isAscii_cons, isAscii_padded, hFraction]

theorem isAscii_text (time : ClockTime) : IsAscii time.text := by
  simp [text, isAscii_append, isAscii_cons, isAscii_padded, isAscii_secondText]

/-- The fields of a time are in their ranges. -/
theorem fieldAt_text (time : ClockTime) :
    fieldAt time.text 0 2 < 24 ∧ fieldAt time.text 3 2 < 60 ∧ fieldAt time.text 6 2 < 60 := by
  obtain ⟨hHour, hMinute, hRest⟩ := @fieldAt_time _ _ (secondText time.second)
    (length_padded 2 time.hour) (length_padded 2 time.minute)
  rw [text, hHour, hMinute, hRest 1 2, natOfDigits_padded_fin time.hour (by decide),
    natOfDigits_padded_fin time.minute (by decide)]
  refine ⟨time.hour.isLt, time.minute.isLt, ?_⟩
  cases time.second with
  | none => decide
  | some s =>
      rw [secondText, fieldAt_second (length_padded 2 s.second),
        natOfDigits_padded_fin s.second (by decide)]
      exact s.second.isLt

end ClockTime

theorem ClockMark.char_eq (mark : ClockMark) : mark.char = ' ' ∨ mark.char = 'T' := by
  cases mark
  · exact .inl rfl
  · exact .inr rfl

namespace CalendarDate

/-- A date of the calendar has the form of dates. -/
theorem isDate_text (date : CalendarDate) : IsDate date.text := by
  unfold text
  cases date.time with
  | none => simpa using IsDate.day date.day.isDay_text
  | some timed => exact .moment date.day.isDay_text timed.1.char_eq timed.2.isTime_text

theorem isAscii_text (date : CalendarDate) : IsAscii date.text := by
  unfold text
  cases date.time with
  | none => simpa using date.day.isAscii_text
  | some timed =>
      have hMark : timed.1.char.toNat < 128 := by cases timed.1 <;> decide
      exact isAscii_append.mpr ⟨date.day.isAscii_text,
        isAscii_cons.mpr ⟨hMark, timed.2.isAscii_text⟩⟩

/-- The text of a date keeps within the calendar. -/
theorem withinCalendar_text (date : CalendarDate) : WithinCalendar date.text := by
  obtain ⟨hYear, hMonth, hDay⟩ := date.day.natOfDigits_fields
  unfold text CalendarDay.text
  rw [withinCalendar_iff (length_padded _ _) (length_padded _ _) (length_padded _ _), hYear, hMonth,
    hDay]
  refine ⟨⟨date.day.month_pos, date.day.month_le⟩, ⟨date.day.day_pos, date.day.day_le⟩, ?_⟩
  cases date.time with
  | none => decide
  | some timed => exact timed.2.fieldAt_text

end CalendarDate

section Written

variable {year month day hour minute second fraction rest time cs : List Char}

/-- Digits in the ranges of the calendar write a day of it. -/
theorem exists_calendarDay (hYear : IsDigits 4 year) (hMonth : IsDigits 2 month)
    (hDay : IsDigits 2 day) (hAscii : IsAscii (year ++ '-' :: (month ++ '-' :: day)))
    (hMonths : 0 < natOfDigits month ∧ natOfDigits month ≤ 12)
    (hDays : 0 < natOfDigits day ∧
      natOfDigits day ≤ daysInMonth (natOfDigits year) (natOfDigits month)) :
    ∃ d : CalendarDay, d.text = year ++ '-' :: (month ++ '-' :: day) := by
  obtain ⟨hYearAscii, -, hMonthAscii, -, hDayAscii⟩ :
      IsAscii year ∧ '-'.toNat < 128 ∧ IsAscii month ∧ '-'.toNat < 128 ∧ IsAscii day := by
    simpa only [isAscii_append, isAscii_cons] using hAscii
  have hYears := natOfDigits_lt (hYear.isAsciiDigit hYearAscii)
  rw [hYear.1] at hYears
  refine ⟨⟨natOfDigits year, natOfDigits month, natOfDigits day, hYears, hMonths.1, hMonths.2,
    hDays.1, hDays.2⟩, ?_⟩
  rw [CalendarDay.text, hYear.padded_eq hYearAscii, hMonth.padded_eq hMonthAscii,
    hDay.padded_eq hDayAscii]

/-- ASCII digits are digits below ten, written out. -/
theorem exists_digits (h : ∀ c ∈ fraction, isAsciiDigit c) :
    ∃ digits : List (Fin 10), digits.map (fun d => Nat.digitChar d.val) = fraction := by
  refine ⟨fraction.map fun c => Fin.ofNat 10 (digitValue c), ?_⟩
  rw [List.map_map]
  refine (List.map_congr_left fun c hMem => ?_).trans (List.map_id fraction)
  rw [Function.comp_apply, Fin.val_ofNat, Nat.mod_eq_of_lt (digitValue_lt (h c hMem)),
    digitChar_digitValue (h c hMem), id]

/-- A time falls apart into an hour, a minute and, with or without a fraction, a second. -/
theorem IsTime.exists_fields (h : IsTime time) : ∃ hour minute rest,
    time = hour ++ ':' :: (minute ++ rest) ∧ IsDigits 2 hour ∧ IsDigits 2 minute ∧
    (rest = [] ∨ ∃ second fraction, IsDigits 2 second ∧ IsDigits fraction.length fraction ∧
      rest = ':' :: (second ++ if fraction = [] then [] else '.' :: fraction)) := by
  cases h with
  | minute hHour hMinute => exact ⟨_, _, [], by rw [List.append_nil], hHour, hMinute, .inl rfl⟩
  | second hHour hMinute hSecond =>
      refine ⟨_, _, _, rfl, hHour, hMinute, .inr ⟨_, [], hSecond, ⟨rfl, by simp⟩, ?_⟩⟩
      rw [if_pos rfl, List.append_nil]
  | fraction hHour hMinute hSecond hFraction hGiven =>
      refine ⟨_, _, _, rfl, hHour, hMinute, .inr ⟨_, _, hSecond, hFraction, ?_⟩⟩
      rw [if_neg hGiven]

/-- Digits in the ranges of the clock write a time. -/
theorem exists_clockTime (h : IsTime time) (hAscii : IsAscii time) (hHours : fieldAt time 0 2 < 24)
    (hMinutes : fieldAt time 3 2 < 60) (hSeconds : fieldAt time 6 2 < 60) :
    ∃ t : ClockTime, t.text = time := by
  obtain ⟨hour, minute, rest, rfl, hHour, hMinute, hRest⟩ := h.exists_fields
  obtain ⟨hHourAt, hMinuteAt, hBehind⟩ := @fieldAt_time hour minute rest hHour.1 hMinute.1
  rw [hHourAt] at hHours
  rw [hMinuteAt] at hMinutes
  rw [hBehind 1 2] at hSeconds
  obtain ⟨hHourAscii, -, hMinuteAscii, hRestAscii⟩ :
      IsAscii hour ∧ ':'.toNat < 128 ∧ IsAscii minute ∧ IsAscii rest := by
    simpa only [isAscii_append, isAscii_cons] using hAscii
  obtain ⟨second, hSecond⟩ : ∃ second, secondText second = rest := by
    rcases hRest with rfl | ⟨second, fraction, hSecond, hFraction, rfl⟩
    · exact ⟨none, rfl⟩
    · obtain ⟨-, hSecondAscii, hFractionAscii⟩ : ':'.toNat < 128 ∧ IsAscii second ∧
          IsAscii (if fraction = [] then [] else '.' :: fraction) := by
        simpa only [isAscii_append, isAscii_cons] using hRestAscii
      have hDigits : ∀ c ∈ fraction, isAsciiDigit c := by
        refine hFraction.isAsciiDigit fun c hMem => hFractionAscii c ?_
        rw [if_neg (List.ne_nil_of_mem hMem)]
        exact List.mem_cons_of_mem _ hMem
      rw [fieldAt_second hSecond.1] at hSeconds
      obtain ⟨digits, rfl⟩ := exists_digits hDigits
      refine ⟨some ⟨⟨natOfDigits second, hSeconds⟩, digits⟩, ?_⟩
      simp only [secondText, fractionText, hSecond.padded_eq hSecondAscii, List.map_eq_nil_iff]
  refine ⟨⟨⟨natOfDigits hour, hHours⟩, ⟨natOfDigits minute, hMinutes⟩, second⟩, ?_⟩
  rw [ClockTime.text, hHour.padded_eq hHourAscii, hMinute.padded_eq hMinuteAscii, hSecond]

/-- Each of the two characters that may set off a time is a mark. -/
theorem exists_clockMark {mark : Char} (h : mark = ' ' ∨ mark = 'T') :
    ∃ m : ClockMark, m.char = mark := by
  rcases h with rfl | rfl
  · exact ⟨.space, rfl⟩
  · exact ⟨.letter, rfl⟩

/-- Dates of the calendar are just the texts of the form of dates that consist of ASCII characters
and have all their fields in range. -/
theorem isCalendarDate_iff : IsCalendarDate cs ↔ IsDate cs ∧ IsAscii cs ∧ WithinCalendar cs := by
  constructor
  · rintro ⟨date, rfl⟩
    exact ⟨date.isDate_text, date.isAscii_text, date.withinCalendar_text⟩
  · rintro ⟨hDate, hAscii, hWithin⟩
    cases hDate with
    | day hDay =>
        obtain ⟨hYear, hMonth, hDay⟩ := hDay
        rw [← List.append_nil (_ ++ _), withinCalendar_iff hYear.1 hMonth.1 hDay.1] at hWithin
        obtain ⟨d, hText⟩ := exists_calendarDay hYear hMonth hDay hAscii hWithin.1 hWithin.2.1
        exact ⟨⟨d, none⟩, by rw [CalendarDate.text, hText, List.append_nil]⟩
    | @moment _ time mark hDay hMark hTime =>
        obtain ⟨hYear, hMonth, hDay⟩ := hDay
        rw [withinCalendar_iff hYear.1 hMonth.1 hDay.1] at hWithin
        obtain ⟨hMonths, hDays, hHours, hMinutes, hSeconds⟩ := hWithin
        obtain ⟨hDayAscii, hTimeAscii⟩ := isAscii_append.mp hAscii
        obtain ⟨d, hText⟩ := exists_calendarDay hYear hMonth hDay hDayAscii hMonths hDays
        obtain ⟨m, rfl⟩ := exists_clockMark hMark
        obtain ⟨t, rfl⟩ :=
          exists_clockTime hTime (isAscii_cons.mp hTimeAscii).2 hHours hMinutes hSeconds
        exact ⟨⟨d, some (m, t)⟩, by rw [CalendarDate.text, hText]⟩

end Written

instance (cs : List Char) : Decidable (IsDate cs) :=
  decidable_of_iff (isDateText (String.ofList cs)) (by rw [isDateText_iff, String.toList_ofList])

instance (cs : List Char) : Decidable (IsCalendarDate cs) :=
  decidable_of_iff _ isCalendarDate_iff.symm

example : IsCalendarDate "2000-02-29T23:59:59.5".toList ∧ ¬IsCalendarDate "1900-02-29".toList := by
  decide +kernel

end Crosstab
