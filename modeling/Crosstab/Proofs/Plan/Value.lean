import Crosstab.Proofs.Plan.DateText
import Crosstab.Proofs.Plan.Operand
import Crosstab.Proofs.Text.Blank

/-!
What filter values are read as. A raw value is related to what it stands for under an operator and a
kind of column, and reading succeeds just for the values that stand for something.
-/

namespace Crosstab

open Crosstab.Text

/-- What a text denotes for a kind of column. -/
inductive Denotes : ValueKind → String → Operand → Prop
  | number {s : String} {x : Float} (hRead : Decimal.readFloat? s = some x) (hFinite : x.isFinite) :
      Denotes .numeric s (.number x)
  | date {s : String} (hForm : IsDate s.toList) : Denotes .date s (.date s)
  | text (s : String) : Denotes .text s (.text s)

/-- The texts that a value lists. The members of a list have to be texts, numbers or truth values,
and are kept as they are; a text is cut at its commas, where blanks do not count. -/
inductive Json.Lists : Json → List String → Prop
  | members {items : List Json} {texts : List String}
      (h : List.Forall₂ (fun item s => verbatim? item = some s) items texts) :
      Lists (.list items) texts
  | pieces (s : String) : Lists (.text s)
      (((Text.pieces ',' s.toList).map fun piece => trim (String.ofList piece)).filter (· ≠ ""))
  | number (n : Number) : Lists (.number n) [trim n.text]
  | bool (b : Bool) : Lists (.bool b) [trim (if b then "true" else "false")]

/-- The comparison of an operator that compares with a single value. -/
def FilterOperator.comparison? : FilterOperator → Option Comparator
  | .equals => some .eq
  | .notEquals => some .ne
  | .greaterThan => some .gt
  | .lessThan => some .lt
  | .greaterEqual => some .ge
  | .lessEqual => some .le
  | _ => none

/-- What stands before and behind the caller's text in the pattern of an operator that has one. -/
def FilterOperator.wildcards? : FilterOperator → Option (String × String)
  | .contains => some ("%", "%")
  | .startsWith => some ("", "%")
  | .endsWith => some ("%", "")
  | _ => none

/-- What a raw value stands for under an operator, on a column of a kind. -/
inductive FilterValue.Reads (kind : ValueKind) :
    FilterOperator → Option Json → FilterValue → Prop
  | absent {operator : FilterOperator} {given : Option Json}
      (hOperator : operator ∈ [.isNull, .isNotNull]) : Reads kind operator given .absent
  | members {operator : FilterOperator} {value : Json} {texts : List String}
      (hOperator : operator ∈ [.isIn, .notIn]) (hTexts : value.Lists texts) :
      Reads kind operator (some value) (.list texts)
  | bounds {value : Json} {low high : String} {x y : Operand} (hTexts : value.Lists [low, high])
      (hLow : Denotes kind (trim low) x) (hHigh : Denotes kind (trim high) y) :
      Reads kind .between (some value) (.range x y)
  | pattern {operator : FilterOperator} {before after s : String} {value : Json}
      (hOperator : operator.wildcards? = some (before, after)) (hText : verbatim? value = some s)
      (hGiven : ¬isBlankText s) :
      Reads kind operator (some value) (.pattern (before ++ escapePattern (trim s) ++ after))
  | scalar {operator : FilterOperator} {c : Comparator} {s : String} {value : Json} {x : Operand}
      (hOperator : operator.comparison? = some c) (hText : verbatim? value = some s)
      (hGiven : ¬isBlankText s) (hOperand : Denotes kind (trim s) x) :
      Reads kind operator (some value) (.scalar x)

variable {kind : ValueKind} {operator : FilterOperator} {given : Option Json} {value : FilterValue}

/-- Texts are read as what they denote. -/
theorem Operand.ofText_eq_ok {s : String} {x : Operand} :
    Operand.ofText kind s = .ok x ↔ Denotes kind s x := by
  cases kind with
  | text =>
      constructor
      · rintro h
        cases h
        exact .text s
      · rintro ⟨⟩
        rfl
  | numeric =>
      simp only [ofText]
      constructor
      · intro h
        split at h
        next x hRead =>
          cases h
          obtain ⟨hRead, hFinite⟩ := Option.filter_eq_some_iff.mp hRead
          exact .number hRead hFinite
        next => cases h
      · rintro ⟨hRead, hFinite⟩
        simp [hRead, hFinite, Option.filter]
  | date =>
      simp only [ofText]
      constructor
      · intro h
        split at h
        next hForm =>
          cases h
          exact .date (isDateText_iff.mp hForm)
        next => cases h
      · intro h
        cases h with
        | date hForm => rw [if_pos (isDateText_iff.mpr hForm)]

/-- An operand has the kind of its column. -/
theorem Denotes.kind_eq {s : String} {x : Operand} (h : Denotes kind s x) : x.kind = kind := by
  cases h <;> rfl

/-- Lists are read as the texts that they list. -/
theorem listTexts?_eq_some {value : Json} {texts : List String} :
    listTexts? value = some texts ↔ value.Lists texts := by
  cases value with
  | null | object =>
      constructor <;> intro h <;> cases h
  | bool b | number n =>
      simp only [listTexts?, verbatim?, Option.map_some, Option.some.injEq]
      constructor
      · rintro rfl
        constructor
      · rintro ⟨⟩
        rfl
  | text s =>
      simp only [listTexts?, Option.some.injEq]
      constructor
      · rintro rfl
        simpa [trim] using Json.Lists.pieces s
      · rintro ⟨⟩
        simp [trim]
  | list items =>
      rw [listTexts?, mapM_eq_some]
      constructor
      · exact .members
      · rintro ⟨h⟩
        exact h

/-- A value lists its texts in one way only. -/
theorem Json.Lists.unique {value : Json} {texts others : List String} (h : value.Lists texts)
    (hOther : value.Lists others) : texts = others :=
  Option.some.inj ((listTexts?_eq_some.mpr h).symm.trans (listTexts?_eq_some.mpr hOther))

theorem listTexts?_eq_none {value : Json} :
    listTexts? value = none ↔ ∀ texts, ¬value.Lists texts := by
  simp only [← listTexts?_eq_some, Option.eq_none_iff_forall_ne_some, ne_eq]

/-- A single text is trimmed, and something has to be left of it. -/
theorem scalarText?_eq_some {s : String} : scalarText? given = some s ↔
    ∃ value t, given = some value ∧ verbatim? value = some t ∧ ¬isBlankText t ∧ trim t = s := by
  simp only [scalarText?, Option.filter_eq_some_iff, Option.map_eq_some_iff,
    Option.bind_eq_some_iff, ← trim_eq_empty]
  constructor
  · rintro ⟨⟨t, ⟨value, hValue, hText⟩, rfl⟩, hGiven⟩
    exact ⟨value, t, hValue, hText, by simpa using hGiven, rfl⟩
  · rintro ⟨value, t, hValue, hText, hGiven, rfl⟩
    exact ⟨⟨t, ⟨value, hValue, hText⟩, rfl⟩, by simpa using hGiven⟩

/-- Operators need no value, a list, two bounds, a text for a pattern, or a single value. -/
theorem FilterOperator.needs (operator : FilterOperator) : operator ∈ [.isNull, .isNotNull] ∨
    operator ∈ [.isIn, .notIn] ∨ operator = .between ∨
    (∃ before after, operator.wildcards? = some (before, after)) ∨
    ∃ c, operator.comparison? = some c := by
  cases operator <;> simp [FilterOperator.wildcards?, FilterOperator.comparison?]

namespace FilterValue

/-- Null is as good as no value. -/
theorem given_eq_some {value : Json} : given.filter (!·.isNull) = some value ↔
    given = some value ∧ value ≠ .null := by
  cases given with
  | none => simp
  | some other =>
      rw [Option.filter_eq_some_iff, Option.some.injEq]
      constructor
      · rintro ⟨rfl, hGiven⟩
        exact ⟨rfl, by rintro rfl; simp [Json.isNull] at hGiven⟩
      · rintro ⟨rfl, hGiven⟩
        cases other <;> simp_all [Json.isNull]

/-- Members are taken as they are listed. -/
theorem ofMembers_eq_ok : ofMembers given = .ok value ↔
    ∃ raw texts, given = some raw ∧ raw.Lists texts ∧ .list texts = value := by
  cases given with
  | none => simp [ofMembers]
  | some raw =>
      cases hTexts : listTexts? raw with
      | none => simp [ofMembers, hTexts, listTexts?_eq_none.mp hTexts]
      | some texts =>
          have hLists := listTexts?_eq_some.mp hTexts
          simp only [ofMembers, hTexts, Except.ok.injEq]
          constructor
          · rintro rfl
            exact ⟨raw, texts, rfl, hLists, rfl⟩
          · rintro ⟨_, others, hRaw, hOthers, rfl⟩
            cases hRaw
            rw [hLists.unique hOthers]

/-- A range needs two bounds, each of which denotes something once it is trimmed. -/
theorem ofBounds_eq_ok : ofBounds kind given = .ok value ↔
    ∃ raw low high x y, given = some raw ∧ raw.Lists [low, high] ∧ Denotes kind (trim low) x ∧
      Denotes kind (trim high) y ∧ .range x y = value := by
  unfold ofBounds
  constructor
  · intro h
    split at h
    · cases h
    next raw =>
      split at h
      next low high hTexts =>
        simp only [bind_eq_ok, Operand.ofText_eq_ok] at h
        obtain ⟨x, hLow, y, hHigh, hEq⟩ := h
        exact ⟨raw, low, high, x, y, rfl, listTexts?_eq_some.mp hTexts, hLow,
          hHigh, Except.ok.inj hEq⟩
      · cases h
      · cases h
  · rintro ⟨raw, low, high, x, y, rfl, hTexts, hLow, hHigh, rfl⟩
    simp [listTexts?_eq_some.mpr hTexts, Operand.ofText_eq_ok.mpr hLow,
      Operand.ofText_eq_ok.mpr hHigh, bind, Except.bind, pure, Except.pure]

/-- A pattern is the escaped text between wildcards. -/
theorem ofPattern_eq_ok {before after : String} : ofPattern given before after = .ok value ↔
    ∃ raw s, given = some raw ∧ verbatim? raw = some s ∧ ¬isBlankText s ∧
      .pattern (before ++ escapePattern (trim s) ++ after) = value := by
  unfold ofPattern
  constructor
  · intro h
    split at h
    next text hText =>
      obtain ⟨raw, s, hGiven, hVerbatim, hBlank, rfl⟩ := scalarText?_eq_some.mp hText
      exact ⟨raw, s, hGiven, hVerbatim, hBlank, Except.ok.inj h⟩
    · cases h
  · rintro ⟨raw, s, hGiven, hVerbatim, hBlank, rfl⟩
    rw [scalarText?_eq_some.mpr ⟨raw, s, hGiven, hVerbatim, hBlank, rfl⟩]

/-- A scalar is what the trimmed text denotes. -/
theorem ofScalar_eq_ok : ofScalar kind given = .ok value ↔
    ∃ raw s x, given = some raw ∧ verbatim? raw = some s ∧ ¬isBlankText s ∧
      Denotes kind (trim s) x ∧ .scalar x = value := by
  unfold ofScalar
  constructor
  · intro h
    split at h
    next text hText =>
      obtain ⟨raw, s, hGiven, hVerbatim, hBlank, rfl⟩ := scalarText?_eq_some.mp hText
      obtain ⟨x, hOperand, hEq⟩ := map_eq_ok.mp h
      exact ⟨raw, s, x, hGiven, hVerbatim, hBlank, Operand.ofText_eq_ok.mp hOperand, hEq⟩
    · cases h
  · rintro ⟨raw, s, x, hGiven, hVerbatim, hBlank, hOperand, rfl⟩
    rw [scalarText?_eq_some.mpr ⟨raw, s, hGiven, hVerbatim, hBlank, rfl⟩]
    exact map_eq_ok.mpr ⟨x, Operand.ofText_eq_ok.mpr hOperand, rfl⟩

/-- A test for null reads no value. -/
theorem read_of_nullary (h : operator ∈ [.isNull, .isNotNull]) :
    read kind operator given = .ok .absent := by
  cases operator <;> first | rfl | simp at h

/-- A test for membership reads a list. -/
theorem read_of_list (h : operator ∈ [.isIn, .notIn]) :
    read kind operator given = ofMembers (given.filter (!·.isNull)) := by
  cases operator <;> first | rfl | simp at h

/-- A search reads a pattern. -/
theorem read_of_wildcards {before after : String} (h : operator.wildcards? = some (before, after)) :
    read kind operator given = ofPattern (given.filter (!·.isNull)) before after := by
  cases operator <;> cases h <;> rfl

/-- A comparison reads a single operand. -/
theorem read_of_comparison {c : Comparator} (h : operator.comparison? = some c) :
    read kind operator given = ofScalar kind (given.filter (!·.isNull)) := by
  cases operator <;> first | rfl | cases h

/-- Reading gives just what a value stands for. -/
theorem read_eq_ok : read kind operator given = .ok value ↔ Reads kind operator given value := by
  constructor
  · intro h
    rcases operator.needs with hOperator | hOperator | rfl |
      ⟨before, after, hOperator⟩ | ⟨c, hOperator⟩
    · rw [read_of_nullary hOperator] at h
      cases h
      exact .absent hOperator
    · rw [read_of_list hOperator] at h
      obtain ⟨raw, texts, hGiven, hTexts, rfl⟩ := ofMembers_eq_ok.mp h
      obtain ⟨rfl, -⟩ := given_eq_some.mp hGiven
      exact .members hOperator hTexts
    · obtain ⟨raw, low, high, x, y, hGiven, hTexts, hLow, hHigh, rfl⟩ := ofBounds_eq_ok.mp h
      obtain ⟨rfl, -⟩ := given_eq_some.mp hGiven
      exact .bounds hTexts hLow hHigh
    · rw [read_of_wildcards hOperator] at h
      obtain ⟨raw, s, hGiven, hText, hBlank, rfl⟩ := ofPattern_eq_ok.mp h
      obtain ⟨rfl, -⟩ := given_eq_some.mp hGiven
      exact .pattern hOperator hText hBlank
    · rw [read_of_comparison hOperator] at h
      obtain ⟨raw, s, x, hGiven, hText, hBlank, hOperand, rfl⟩ := ofScalar_eq_ok.mp h
      obtain ⟨rfl, -⟩ := given_eq_some.mp hGiven
      exact .scalar hOperator hText hBlank hOperand
  · intro h
    cases h with
    | absent hOperator => exact read_of_nullary hOperator
    | members hOperator hTexts =>
        rw [read_of_list hOperator, ofMembers_eq_ok]
        exact ⟨_, _, given_eq_some.mpr ⟨rfl, by rintro rfl; cases hTexts⟩, hTexts, rfl⟩
    | bounds hTexts hLow hHigh =>
        refine ofBounds_eq_ok.mpr ⟨_, _, _, _, _, ?_, hTexts, hLow, hHigh, rfl⟩
        exact given_eq_some.mpr ⟨rfl, by rintro rfl; cases hTexts⟩
    | pattern hOperator hText hBlank =>
        rw [read_of_wildcards hOperator, ofPattern_eq_ok]
        exact ⟨_, _, given_eq_some.mpr ⟨rfl, by rintro rfl; cases hText⟩, hText, hBlank, rfl⟩
    | scalar hOperator hText hBlank hOperand =>
        rw [read_of_comparison hOperator, ofScalar_eq_ok]
        exact ⟨_, _, _, given_eq_some.mpr ⟨rfl, by rintro rfl; cases hText⟩, hText, hBlank,
          hOperand, rfl⟩

theorem Reads.eq_list (h : Reads kind operator given value)
    (hOperator : operator ∈ [.isIn, .notIn]) :
    ∃ raw texts, given = some raw ∧ raw.Lists texts ∧ value = .list texts := by
  rw [← read_eq_ok, read_of_list hOperator] at h
  obtain ⟨raw, texts, hGiven, hTexts, hValue⟩ := ofMembers_eq_ok.mp h
  exact ⟨raw, texts, (given_eq_some.mp hGiven).1, hTexts, hValue.symm⟩

theorem Reads.eq_range (h : Reads kind .between given value) : ∃ raw low high x y,
    given = some raw ∧ raw.Lists [low, high] ∧ Denotes kind (trim low) x ∧
      Denotes kind (trim high) y ∧ value = .range x y := by
  obtain ⟨raw, low, high, x, y, hGiven, hTexts, hLow, hHigh, hValue⟩ :=
    ofBounds_eq_ok.mp (read_eq_ok.mpr h)
  exact ⟨raw, low, high, x, y, (given_eq_some.mp hGiven).1, hTexts, hLow, hHigh, hValue.symm⟩

theorem Reads.eq_scalar {c : Comparator} (h : Reads kind operator given value)
    (hOperator : operator.comparison? = some c) : ∃ raw s x, given = some raw ∧
      verbatim? raw = some s ∧ ¬isBlankText s ∧ Denotes kind (trim s) x ∧ value = .scalar x := by
  rw [← read_eq_ok, read_of_comparison hOperator] at h
  obtain ⟨raw, s, x, hGiven, hText, hBlank, hOperand, hValue⟩ := ofScalar_eq_ok.mp h
  exact ⟨raw, s, x, (given_eq_some.mp hGiven).1, hText, hBlank, hOperand, hValue.symm⟩

theorem Reads.eq_pattern {before after : String} (h : Reads kind operator given value)
    (hOperator : operator.wildcards? = some (before, after)) :
    ∃ raw s, given = some raw ∧ verbatim? raw = some s ∧ ¬isBlankText s ∧
      value = .pattern (before ++ escapePattern (trim s) ++ after) := by
  rw [← read_eq_ok, read_of_wildcards hOperator] at h
  obtain ⟨raw, s, hGiven, hText, hBlank, hValue⟩ := ofPattern_eq_ok.mp h
  exact ⟨raw, s, (given_eq_some.mp hGiven).1, hText, hBlank, hValue.symm⟩

/-- A value that was read has the form that its operator needs. -/
theorem form_read (h : read kind operator given = .ok value) :
    value.form = operator.form kind value.values.length := by
  cases read_eq_ok.mp h with
  | absent hOperator => cases operator <;> first | rfl | simp at hOperator
  | members hOperator =>
      cases operator <;> simp [form, values, FilterOperator.form] at hOperator ⊢
  | bounds _ hLow hHigh => simp only [form, FilterOperator.form, hLow.kind_eq, hHigh.kind_eq]
  | pattern hOperator => cases operator <;> first | rfl | cases hOperator
  | scalar hOperator _ _ hOperand =>
      rw [form, hOperand.kind_eq]
      cases operator <;> first | rfl | cases hOperator

/-- No value is read for tests for null only. -/
theorem isNullary_of_absent (h : read kind operator given = .ok .absent) : operator.isNullary := by
  cases read_eq_ok.mp h with
  | absent hOperator => cases operator <;> first | rfl | simp at hOperator

end FilterValue

end Crosstab
