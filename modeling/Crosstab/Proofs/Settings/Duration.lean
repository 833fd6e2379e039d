import Crosstab.Proofs.Text.Blank
import Crosstab.Proofs.Text.Numeral
import Crosstab.Proofs.Text.Run
import Crosstab.Settings.Resolve

/-!
Durations in settings. Which texts denote durations is said here as a grammar: a number in ASCII
digits and the name of a unit, with or without blanks between them. Numbers that 64 bits do not hold
are refused, but what they count is not checked once more: a counter of seconds that overflows
starts again from zero.
-/

namespace Crosstab

open Crosstab.Text

namespace TimeUnit

/-- The names under which a unit is written. -/
def names : TimeUnit → List String
  | .millisecond => ["ms"]
  | .second => ["", "s"]
  | .minute => ["m"]
  | .hour => ["h"]

/-- How far one of a unit moves its counter. Milliseconds have a counter of their own, and the other
units share one of seconds. -/
def ticks : TimeUnit → Nat
  | .millisecond | .second => 1
  | .minute => 60
  | .hour => 3600

/-- The milliseconds for which a counter moves by one. -/
def tickMillis : TimeUnit → Nat
  | .millisecond => 1
  | .second | .minute | .hour => 1000

/-- A unit is known by its names, and by nothing else. -/
theorem ofName?_eq_some {name : String} {unit : TimeUnit} :
    ofName? name = some unit ↔ name ∈ unit.names := by
  constructor
  · intro h
    unfold ofName? at h
    split at h <;> cases h <;> simp [names]
  · intro h
    cases unit <;> simp only [names, List.mem_cons, List.not_mem_nil, or_false] at h
    case second => rcases h with rfl | rfl <;> rfl
    all_goals
      subst h
      rfl

/-- No name of a unit contains a blank or a digit. -/
theorem not_isBlank_of_mem_names {unit : TimeUnit} {name : String} (h : name ∈ unit.names) :
    ∀ c ∈ name.toList, ¬isBlank c ∧ ¬isAsciiDigit c := by
  have hLetters : name.toList.all fun c => !isBlank c && !isAsciiDigit c := by
    cases unit <;> simp only [names, List.mem_cons, List.not_mem_nil, or_false] at h
    case second => rcases h with rfl | rfl <;> decide
    all_goals
      subst h
      decide
  simpa using hLetters

/-- The counter of a unit has 64 bits. -/
theorem span_ofNat {n : Nat} (h : n < UInt64.size) (unit : TimeUnit) :
    unit.span (UInt64.ofNat n) = ⟨n * unit.ticks % UInt64.size * unit.tickMillis⟩ := by
  have hNumber : (UInt64.ofNat n).toNat = n := UInt64.toNat_ofNat_of_lt' h
  cases unit <;> simp [span, ticks, tickMillis, hNumber, Nat.mod_eq_of_lt h]

end TimeUnit

namespace Duration

/-- A number of a unit as it is written. -/
inductive Written : List Char → Nat → TimeUnit → Prop
  | intro {digits blanks : List Char} {name : String} {unit : TimeUnit} (hGiven : digits ≠ [])
      (hDigits : ∀ c ∈ digits, isAsciiDigit c) (hBlanks : ∀ c ∈ blanks, isBlank c)
      (hName : name ∈ unit.names) :
      Written (digits ++ (blanks ++ name.toList)) (Nat.ofDigitChars 10 digits 0) unit

/-- What a text exactly denotes, if the counter of the unit gets that far. -/
def Exact (s : String) (d : Duration) : Prop :=
  ∃ n unit, Written (trimChars s.toList) n unit ∧ n * unit.ticks < UInt64.size ∧
    d = ⟨n * unit.ticks * unit.tickMillis⟩

/-- A text that is read as what it exactly denotes, or refused if it denotes nothing. -/
structure ReadExactly (s : String) : Prop where
  accepted : ∀ d, ofSetting s = .ok d ↔ Exact s d
  refused : (∀ d, ¬Exact s d) → ofSetting s = .error (.invalidDuration (trim s))

/-- A digit is no blank. -/
theorem not_isAsciiDigit_of_isBlank {c : Char} (h : isBlank c) : ¬isAsciiDigit c := by
  intro hDigit
  have hRange := isAsciiDigit_iff.mp hDigit
  simp only [isBlank, Bool.or_eq_true, Bool.and_eq_true, decide_eq_true_eq, beq_iff_eq] at h
  omega

/-- A written number of a unit falls apart into its digits and the name of the unit. -/
theorem Written.spanDigits_eq {cs : List Char} {n : Nat} {unit : TimeUnit} (h : Written cs n unit) :
    ∃ digits rest, spanDigits cs = (digits, rest) ∧ digits ≠ [] ∧ natOfDigits digits = n ∧
      TimeUnit.ofName? (String.ofList (trimChars rest)) = some unit := by
  obtain @⟨digits, blanks, name, _, hGiven, hDigits, hBlanks, hName⟩ := h
  have hLetters := TimeUnit.not_isBlank_of_mem_names hName
  have hStop : Stops isAsciiDigit (blanks ++ name.toList) := by
    intro c hFirst
    rcases List.mem_append.mp (List.mem_of_mem_head? hFirst) with hBlank | hLetter
    · exact not_isAsciiDigit_of_isBlank (hBlanks c hBlank)
    · exact (hLetters c hLetter).2
  refine ⟨digits, blanks ++ name.toList, ?_, hGiven, rfl, ?_⟩
  · rw [spanDigits, takeWhile_run hDigits hStop, dropWhile_run hDigits hStop]
  · rw [trimChars_append_of_blank hBlanks, trimChars_of_not_blank fun c hMem => (hLetters c hMem).1,
      String.ofList_toList, TimeUnit.ofName?_eq_some]
    exact hName

/-- What falls apart like that in a trimmed text is written there. -/
theorem written_of_spanDigits {cs digits rest : List Char} {unit : TimeUnit}
    (hSpan : spanDigits (trimChars cs) = (digits, rest)) (hGiven : digits ≠ [])
    (hName : TimeUnit.ofName? (String.ofList (trimChars rest)) = some unit) :
    Written (trimChars cs) (natOfDigits digits) unit := by
  obtain ⟨rfl, rfl⟩ := Prod.mk.inj hSpan
  generalize hText : trimChars cs = text at *
  have hSuffix : text.dropWhile isAsciiDigit <:+ trimChars cs := hText ▸ List.dropWhile_suffix _
  rw [trimChars_of_suffix hSuffix, TimeUnit.ofName?_eq_some] at hName
  have hBlanks : ∀ c ∈ (text.dropWhile isAsciiDigit).takeWhile isBlank, isBlank c :=
    fun c hMem => List.mem_takeWhile_imp hMem
  have hWritten := Written.intro hGiven (fun c hMem => List.mem_takeWhile_imp hMem) hBlanks hName
  rwa [String.toList_ofList, List.takeWhile_append_dropWhile, List.takeWhile_append_dropWhile]
    at hWritten

/-- A text is written as one number of one unit only. -/
theorem Written.unique {cs : List Char} {n m : Nat} {unit other : TimeUnit} (h : Written cs n unit)
    (hOther : Written cs m other) : n = m ∧ unit = other := by
  obtain ⟨digits, rest, hSpan, -, rfl, hName⟩ := h.spanDigits_eq
  obtain ⟨_, _, hSame, -, rfl, hOwn⟩ := hOther.spanDigits_eq
  cases hSpan.symm.trans hSame
  exact ⟨rfl, Option.some.inj (hName.symm.trans hOwn)⟩

variable {s : String} {d : Duration}

/-- What a text of settings is read as: so many ticks, as far as the counter shows them. -/
theorem ofSetting_of_written {n : Nat} {unit : TimeUnit} (h : Written (trimChars s.toList) n unit)
    (hFits : n < UInt64.size) :
    ofSetting s = .ok ⟨n * unit.ticks % UInt64.size * unit.tickMillis⟩ := by
  obtain ⟨digits, rest, hSpan, hGiven, rfl, hName⟩ := h.spanDigits_eq
  have hRead : ofText? s = some (unit.span (UInt64.ofNat (natOfDigits digits))) := by
    simp [ofText?, hSpan, hGiven, hName, hFits]
  rw [ofSetting, hRead, TimeUnit.span_ofNat hFits]

/-- Nothing else is read. -/
theorem ofSetting_of_not_written
    (h : ∀ n unit, Written (trimChars s.toList) n unit → UInt64.size ≤ n) :
    ofSetting s = .error (.invalidDuration (trim s)) := by
  have hNone : ofText? s = none := by
    unfold ofText?
    cases hSpan : spanDigits (trimChars s.toList) with
    | mk digits rest =>
        by_contra hRead
        obtain ⟨hGiven, hFits, unit, hName⟩ : digits ≠ [] ∧ natOfDigits digits < UInt64.size ∧
            ∃ unit, TimeUnit.ofName? (String.ofList (trimChars rest)) = some unit := by
          simpa [Option.eq_none_iff_forall_ne_some] using hRead
        have hLarge := h _ _ (written_of_spanDigits hSpan hGiven hName)
        omega
  rw [ofSetting, hNone]

/-- What is exactly denoted fits twice: the number does, and the counter gets that far. -/
theorem Exact.written (h : Exact s d) :
    ∃ n unit, Written (trimChars s.toList) n unit ∧ n < UInt64.size ∧ n * unit.ticks < UInt64.size ∧
      d = ⟨n * unit.ticks * unit.tickMillis⟩ := by
  obtain ⟨n, unit, hWritten, hTicks, hEq⟩ := h
  have hLarger : n ≤ n * unit.ticks := Nat.le_mul_of_pos_right n (by cases unit <;> decide)
  exact ⟨n, unit, hWritten, hLarger.trans_lt hTicks, hTicks, hEq⟩

/-- A number of a unit is read exactly as long as the counter does not wrap. -/
theorem readExactly_of_written {n : Nat} {unit : TimeUnit}
    (h : Written (trimChars s.toList) n unit) (hTicks : n * unit.ticks < UInt64.size) :
    ReadExactly s := by
  have hExact : Exact s ⟨n * unit.ticks * unit.tickMillis⟩ := ⟨n, unit, h, hTicks, rfl⟩
  obtain ⟨_, _, hSame, hFits, -⟩ := hExact.written
  obtain ⟨rfl, rfl⟩ := h.unique hSame
  have hRead := ofSetting_of_written h hFits
  rw [Nat.mod_eq_of_lt hTicks] at hRead
  constructor
  case accepted =>
    intro d
    rw [hRead, Except.ok.injEq]
    constructor
    · rintro rfl
      exact hExact
    · rintro ⟨m, other, hOther, -, rfl⟩
      obtain ⟨rfl, rfl⟩ := h.unique hOther
      rfl
  case refused => exact fun hNothing => absurd hExact (hNothing _)

/-- What is no number of a unit is refused. -/
theorem readExactly_of_not_written
    (h : ∀ n unit, Written (trimChars s.toList) n unit → UInt64.size ≤ n) : ReadExactly s := by
  have hRefused := ofSetting_of_not_written h
  constructor
  case accepted =>
    intro d
    rw [hRefused]
    refine ⟨fun hNever => (by cases hNever), ?_⟩
    intro hExact
    obtain ⟨n, unit, hWritten, hFits, -⟩ := hExact.written
    exact absurd hFits (Nat.not_lt.mpr (h n unit hWritten))
  case refused => exact fun _ => hRefused

/-- Only a counter that gets as far as it should shows what is exactly denoted. -/
theorem ReadExactly.ticks_lt (hExact : ReadExactly s) {n : Nat} {unit : TimeUnit}
    (h : Written (trimChars s.toList) n unit) (hFits : n < UInt64.size) :
    n * unit.ticks < UInt64.size := by
  obtain ⟨m, other, hOther, hTicks, -⟩ := (hExact.accepted _).mp (ofSetting_of_written h hFits)
  obtain ⟨rfl, rfl⟩ := h.unique hOther
  exact hTicks

/-- A number of a unit is read as so many ticks of the unit's counter, as far as its 64 bits tell
them apart, and any other text is refused. Hence a text is read as what it exactly denotes just if
it is not a number that would carry the counter beyond its bits. -/
theorem readExactly_iff (s : String) :
    ((∀ n unit, Written (trimChars s.toList) n unit → n < UInt64.size →
        ofSetting s = .ok ⟨n * unit.ticks % UInt64.size * unit.tickMillis⟩) ∧
      ((∀ n unit, Written (trimChars s.toList) n unit → UInt64.size ≤ n) →
        ofSetting s = .error (.invalidDuration (trim s)))) ∧
    (ReadExactly s ↔
      ∀ n unit, Written (trimChars s.toList) n unit → n < UInt64.size →
        n * unit.ticks < UInt64.size) := by
  constructor
  · exact ⟨fun n unit h hFits => ofSetting_of_written h hFits, ofSetting_of_not_written⟩
  · constructor
    · intro hExact n unit h hFits
      exact hExact.ticks_lt h hFits
    · intro hTicks
      by_cases hWritten : ∃ n unit, Written (trimChars s.toList) n unit ∧ n < UInt64.size
      · obtain ⟨n, unit, h, hFits⟩ := hWritten
        exact readExactly_of_written h (hTicks n unit h hFits)
      · apply readExactly_of_not_written
        intro n unit h
        by_contra hFits
        exact hWritten ⟨n, unit, h, Nat.lt_of_not_le hFits⟩

/-- Half a trillion years are read as less than a minute. -/
theorem overflowed_minutes : ofSetting "307445734561825861m" = .ok ⟨44000⟩ ∧
    Written (trimChars "307445734561825861m".toList) 307445734561825861 .minute ∧
    UInt64.size ≤ 307445734561825861 * TimeUnit.minute.ticks ∧
      ¬ReadExactly "307445734561825861m" := by
  have hText : trimChars "307445734561825861m".toList =
      "307445734561825861".toList ++ ([] ++ "m".toList) := by decide +kernel
  have hNumber : Nat.ofDigitChars 10 "307445734561825861".toList 0 = 307445734561825861 := by
    decide +kernel
  have hDigits : "307445734561825861".toList.all isAsciiDigit := by decide +kernel
  have hWritten := @Written.intro "307445734561825861".toList [] "m" .minute (by decide +kernel)
    (List.all_eq_true.mp hDigits) (by simp) List.mem_cons_self
  rw [hNumber, ← hText] at hWritten
  have hFits : 307445734561825861 < UInt64.size := by decide
  have hOverflow : UInt64.size ≤ 307445734561825861 * TimeUnit.minute.ticks := by decide
  have hNotExact : ¬ReadExactly "307445734561825861m" := fun hExact =>
    Nat.not_le.mpr (hExact.ticks_lt hWritten hFits) hOverflow
  exact ⟨ofSetting_of_written hWritten hFits, hWritten, hOverflow, hNotExact⟩

end Duration

end Crosstab
