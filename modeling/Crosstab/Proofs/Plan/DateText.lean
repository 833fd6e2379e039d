import Crosstab.Plan.Operand

/-!
The form of dates. Which texts pass for dates is said here as a grammar: a day and, set off by a
space or a `T`, perhaps a time of day. The calendar has no part in it.
-/

namespace Crosstab

open Crosstab.Text

/-- So many decimal digits, of any script. -/
def IsDigits (count : Nat) (cs : List Char) : Prop :=
  cs.length = count ∧ ∀ c ∈ cs, isDecimalDigit c

/-- A year, a month and a day. -/
inductive IsDay : List Char → Prop
  | intro {year month day : List Char} (hYear : IsDigits 4 year) (hMonth : IsDigits 2 month)
      (hDay : IsDigits 2 day) : IsDay (year ++ '-' :: (month ++ '-' :: day))

/-- An hour and a minute, perhaps a second, and behind a second perhaps a fraction of it. -/
inductive IsTime : List Char → Prop
  | minute {hour minute : List Char} (hHour : IsDigits 2 hour) (hMinute : IsDigits 2 minute) :
      IsTime (hour ++ ':' :: minute)
  | second {hour minute second : List Char} (hHour : IsDigits 2 hour) (hMinute : IsDigits 2 minute)
      (hSecond : IsDigits 2 second) : IsTime (hour ++ ':' :: (minute ++ ':' :: second))
  | fraction {hour minute second fraction : List Char} (hHour : IsDigits 2 hour)
      (hMinute : IsDigits 2 minute) (hSecond : IsDigits 2 second)
      (hFraction : IsDigits fraction.length fraction) (hGiven : fraction ≠ []) :
      IsTime (hour ++ ':' :: (minute ++ ':' :: (second ++ '.' :: fraction)))

/-- A day, or a moment of a day. -/
inductive IsDate : List Char → Prop
  | day {day : List Char} (hDay : IsDay day) : IsDate day
  | moment {day time : List Char} {mark : Char} (hDay : IsDay day) (hMark : mark = ' ' ∨ mark = 'T')
      (hTime : IsTime time) : IsDate (day ++ mark :: time)

variable {cs : List Char} {next : List Char → Bool}

/-- So many digits, and then what is accepted behind them. -/
theorem digitsThen_iff {count : Nat} : digitsThen count next cs ↔
    ∃ digits rest, cs = digits ++ rest ∧ IsDigits count digits ∧ next rest := by
  simp only [digitsThen, Bool.and_eq_true, beq_iff_eq, List.all_eq_true]
  constructor
  · rintro ⟨⟨hLength, hDigits⟩, hNext⟩
    exact ⟨cs.take count, cs.drop count, (List.take_append_drop count cs).symm, ⟨hLength, hDigits⟩,
      hNext⟩
  · rintro ⟨digits, rest, rfl, ⟨rfl, hDigits⟩, hNext⟩
    simpa using ⟨hDigits, hNext⟩

theorem markThen_iff {mark : Char} : markThen mark next cs ↔
    ∃ rest, cs = mark :: rest ∧ next rest := by
  cases cs with
  | nil => simp [markThen]
  | cons c rest => simp [markThen, and_assoc]

/-- A fraction is missing, or it has a point and at least one digit. -/
theorem isFraction_iff : isFraction cs ↔ cs = [] ∨
    ∃ fraction, cs = '.' :: fraction ∧ fraction ≠ [] ∧ IsDigits fraction.length fraction := by
  cases cs with
  | nil => simp [isFraction]
  | cons c rest => simp [isFraction, IsDigits, and_assoc]

/-- Seconds are missing, or they have two digits and perhaps a fraction. -/
theorem isSeconds_iff : isSeconds cs ↔ cs = [] ∨
    ∃ second rest, cs = ':' :: (second ++ rest) ∧ IsDigits 2 second ∧ isFraction rest := by
  cases cs with
  | nil => simp [isSeconds]
  | cons c rest => simp [isSeconds, digitsThen_iff, and_assoc]

/-- The scan for times accepts those that have the form of one. -/
theorem isTime_iff : digitsThen 2 (markThen ':' (digitsThen 2 isSeconds)) cs ↔ IsTime cs := by
  simp only [digitsThen_iff, markThen_iff, isSeconds_iff, isFraction_iff]
  constructor
  · rintro ⟨hour, _, rfl, hHour, _, rfl, minute, _, rfl, hMinute,
      rfl | ⟨second, _, rfl, hSecond, rfl | ⟨fraction, rfl, hGiven, hFraction⟩⟩⟩
    · simpa using IsTime.minute hHour hMinute
    · simpa using IsTime.second hHour hMinute hSecond
    · exact .fraction hHour hMinute hSecond hFraction hGiven
  · rintro (⟨hHour, hMinute⟩ | ⟨hHour, hMinute, hSecond⟩ |
      ⟨hHour, hMinute, hSecond, hFraction, hGiven⟩)
    · exact ⟨_, _, rfl, hHour, _, rfl, _, [], by simp, hMinute, .inl rfl⟩
    · exact ⟨_, _, rfl, hHour, _, rfl, _, _, rfl, hMinute, .inr ⟨_, [], by simp, hSecond, .inl rfl⟩⟩
    · exact ⟨_, _, rfl, hHour, _, rfl, _, _, rfl, hMinute,
        .inr ⟨_, _, rfl, hSecond, .inr ⟨_, rfl, hGiven, hFraction⟩⟩⟩

/-- A time of day is missing, or it is set off by one of two characters. -/
theorem isClock_iff : isClock cs ↔ cs = [] ∨
    ∃ mark time, cs = mark :: time ∧ (mark = ' ' ∨ mark = 'T') ∧ IsTime time := by
  cases cs with
  | nil => simp [isClock]
  | cons c rest => simp [isClock, isTime_iff, and_assoc]

/-- A text passes for a date just if it has the form of one. -/
theorem isDateText_iff {s : String} : isDateText s ↔ IsDate s.toList := by
  simp only [isDateText, digitsThen_iff, markThen_iff, isClock_iff]
  constructor
  · rintro ⟨year, _, hText, hYear, _, rfl, month, _, rfl, hMonth, _, rfl, day, _, rfl, hDay,
      rfl | ⟨mark, time, rfl, hMark, hTime⟩⟩
    · rw [hText]
      simpa using IsDate.day (.intro hYear hMonth hDay)
    · rw [hText]
      simpa using IsDate.moment (.intro hYear hMonth hDay) hMark hTime
  · generalize s.toList = cs
    rintro (⟨⟨hYear, hMonth, hDay⟩⟩ | ⟨⟨hYear, hMonth, hDay⟩, hMark, hTime⟩)
    · exact ⟨_, _, rfl, hYear, _, rfl, _, _, rfl, hMonth, _, rfl, _, [], by simp, hDay, .inl rfl⟩
    · refine ⟨_, _, List.append_assoc _ _ _, hYear, _, rfl, _, _, ?_, hMonth, _, rfl, _, _, rfl,
        hDay, .inr ⟨_, _, rfl, hMark, hTime⟩⟩
      simp

end Crosstab
