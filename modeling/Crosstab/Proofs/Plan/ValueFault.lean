import Crosstab.Proofs.Plan.Value

/-!
Why filter values are refused. Each fault says something of the raw value, and reading reports only
faults that the value has; a value with a fault stands for nothing.
-/

namespace Crosstab

open Crosstab.Text

/-- No value is given, or null, which counts as none. -/
def Missing (given : Option Json) : Prop := given = none ∨ given = some .null

/-- No text is given, or a blank one. -/
def Wordless (given : Option Json) : Prop :=
  ∀ value s, given = some value → verbatim? value = some s → isBlankText s

/-- The texts that an operator compares with. -/
inductive FilterOperator.ComparesWith : FilterOperator → Option Json → String → Prop
  | scalar {operator : FilterOperator} {c : Comparator} {value : Json} {s : String}
      (hOperator : operator.comparison? = some c) (hText : verbatim? value = some s) :
      ComparesWith operator (some value) (trim s)
  | bound {value : Json} {low high s : String} (hTexts : value.Lists [low, high])
      (hBound : s = low ∨ s = high) : ComparesWith .between (some value) (trim s)

/-- What it means that a value has a fault. -/
def ValueFault.Blames (kind : ValueKind) (operator : FilterOperator) (given : Option Json) :
    ValueFault → Prop
  | .listMissing => operator ∈ [.isIn, .notIn] ∧ Missing given
  | .notAList => operator ∈ [.isIn, .notIn] ∧
      ∃ value, given = some value ∧ ∀ texts, ¬value.Lists texts
  | .boundsMissing => operator = .between ∧ Missing given
  | .notBounds => operator = .between ∧ ∃ value, given = some value ∧ ∀ texts, ¬value.Lists texts
  | .boundCount found => operator = .between ∧ found ≠ 2 ∧
      ∃ value texts, given = some value ∧ value.Lists texts ∧ texts.length = found
  | .patternMissing => operator.wildcards?.isSome ∧ Wordless given
  | .scalarMissing => operator.comparison?.isSome ∧ Wordless given
  | .notANumber s => kind = .numeric ∧ operator.ComparesWith given s ∧ ∀ x, ¬Denotes .numeric s x
  | .notADate s => kind = .date ∧ operator.ComparesWith given s ∧ ∀ x, ¬Denotes .date s x

variable {kind : ValueKind} {operator : FilterOperator} {given : Option Json} {value : FilterValue}
  {fault : ValueFault}

/-- A text is refused for what it does not denote. -/
theorem Operand.ofText_eq_error {s : String} (h : Operand.ofText kind s = .error fault) :
    (∀ x, ¬Denotes kind s x) ∧
      ((kind = .numeric ∧ fault = .notANumber s) ∨ (kind = .date ∧ fault = .notADate s)) := by
  refine ⟨fun x hDenotes => ?_, ?_⟩
  · rw [Operand.ofText_eq_ok.mpr hDenotes] at h
    cases h
  · cases kind with
    | text => cases h
    | numeric =>
        simp only [ofText] at h
        split at h <;> cases h
        exact .inl ⟨rfl, rfl⟩
    | date =>
        simp only [ofText] at h
        split at h <;> cases h
        exact .inr ⟨rfl, rfl⟩

/-- No text is left just if there is none besides blanks. -/
theorem scalarText?_eq_none : scalarText? given = none ↔ Wordless given := by
  rw [Option.eq_none_iff_forall_ne_some]
  constructor
  · intro h value s hValue hText
    by_contra hGiven
    exact h (trim s) (scalarText?_eq_some.mpr ⟨value, s, hValue, hText, hGiven, rfl⟩)
  · intro h s hSome
    obtain ⟨value, t, hValue, hText, hGiven, -⟩ := scalarText?_eq_some.mp hSome
    exact hGiven (h value t hValue hText)

namespace FilterValue

/-- A value is missing just if none is given or it is null. -/
theorem given_eq_none : given.filter (!·.isNull) = none ↔ Missing given := by
  cases given with
  | none => simp [Missing]
  | some value => cases value <;> simp [Missing, Option.filter, Json.isNull]

/-- Null holds no text, so it may be taken for no value. -/
theorem wordless_of_given (h : Wordless (given.filter (!·.isNull))) : Wordless given := by
  intro raw s hGiven hText
  refine h raw s (given_eq_some.mpr ⟨hGiven, ?_⟩) hText
  rintro rfl
  cases hText

/-- A range that is refused has the fault that is reported. -/
theorem blames_of_ofBounds (h : ofBounds kind (given.filter (!·.isNull)) = .error fault) :
    fault.Blames kind .between given := by
  unfold ofBounds at h
  split at h
  next hGiven =>
    cases h
    exact ⟨rfl, given_eq_none.mp hGiven⟩
  next raw hGiven =>
    obtain ⟨rfl, -⟩ := given_eq_some.mp hGiven
    split at h
    next low high hTexts =>
      have hLists := listTexts?_eq_some.mp hTexts
      -- The bounds are read in order, and the first that denotes nothing is blamed.
      obtain ⟨s, hBound, hFails⟩ : ∃ s, (s = low ∨ s = high) ∧
          Operand.ofText kind (trim s) = .error fault := by
        simp only [bind_eq_error] at h
        rcases h with hLow | ⟨x, -, hHigh | ⟨y, -, hNever⟩⟩
        · exact ⟨low, .inl rfl, hLow⟩
        · exact ⟨high, .inr rfl, hHigh⟩
        · cases hNever
      obtain ⟨hNothing, ⟨rfl, rfl⟩ | ⟨rfl, rfl⟩⟩ := Operand.ofText_eq_error hFails
      · exact ⟨rfl, .bound hLists hBound, hNothing⟩
      · exact ⟨rfl, .bound hLists hBound, hNothing⟩
    next texts hCount hTexts =>
      cases h
      refine ⟨rfl, fun hTwo => ?_, raw, texts, rfl, listTexts?_eq_some.mp hTexts, rfl⟩
      obtain ⟨low, high, rfl⟩ := List.length_eq_two.mp hTwo
      exact hCount low high rfl
    next hTexts =>
      cases h
      exact ⟨rfl, raw, rfl, listTexts?_eq_none.mp hTexts⟩

/-- A single value that is refused has the fault that is reported. -/
theorem blames_of_ofScalar {c : Comparator} (hOperator : operator.comparison? = some c)
    (h : ofScalar kind (given.filter (!·.isNull)) = .error fault) :
    fault.Blames kind operator given := by
  unfold ofScalar at h
  split at h
  next text hText =>
    obtain ⟨raw, s, hGiven, hVerbatim, -, rfl⟩ := scalarText?_eq_some.mp hText
    obtain ⟨rfl, -⟩ := given_eq_some.mp hGiven
    obtain ⟨hNothing, ⟨rfl, rfl⟩ | ⟨rfl, rfl⟩⟩ := Operand.ofText_eq_error (map_eq_error.mp h)
    · exact ⟨rfl, .scalar hOperator hVerbatim, hNothing⟩
    · exact ⟨rfl, .scalar hOperator hVerbatim, hNothing⟩
  next hText =>
    cases h
    exact ⟨by simp [hOperator], wordless_of_given (scalarText?_eq_none.mp hText)⟩

/-- A value is refused for a fault that it has. -/
theorem blames_of_read (h : read kind operator given = .error fault) :
    fault.Blames kind operator given := by
  rcases operator.needs with hOperator | hOperator | rfl |
    ⟨before, after, hOperator⟩ | ⟨c, hOperator⟩
  · rw [read_of_nullary hOperator] at h
    cases h
  · rw [read_of_list hOperator] at h
    unfold ofMembers at h
    split at h
    next hGiven =>
      cases h
      exact ⟨hOperator, given_eq_none.mp hGiven⟩
    next raw hGiven =>
      obtain ⟨rfl, -⟩ := given_eq_some.mp hGiven
      split at h
      · cases h
      next hTexts =>
        cases h
        exact ⟨hOperator, raw, rfl, listTexts?_eq_none.mp hTexts⟩
  · exact blames_of_ofBounds h
  · rw [read_of_wildcards hOperator, ofPattern] at h
    split at h
    · cases h
    next hText =>
      cases h
      exact ⟨by simp [hOperator], wordless_of_given (scalarText?_eq_none.mp hText)⟩
  · rw [read_of_comparison hOperator] at h
    exact blames_of_ofScalar hOperator h

/-- Members of a list have to be given. -/
theorem Reads.members_given (h : Reads kind operator given value)
    (hOperator : operator ∈ [.isIn, .notIn]) : ∃ raw texts, given = some raw ∧ raw.Lists texts := by
  obtain ⟨raw, texts, hGiven, hTexts, -⟩ := h.eq_list hOperator
  exact ⟨raw, texts, hGiven, hTexts⟩

/-- A range that is read has been given two bounds. -/
theorem Reads.bounds_given (h : Reads kind .between given value) :
    ∃ raw low high x y, given = some raw ∧ raw.Lists [low, high] ∧ Denotes kind (trim low) x ∧
      Denotes kind (trim high) y := by
  obtain ⟨raw, low, high, x, y, hGiven, hTexts, hLow, hHigh, -⟩ := h.eq_range
  exact ⟨raw, low, high, x, y, hGiven, hTexts, hLow, hHigh⟩

/-- A search that is read has been given a text. -/
theorem Reads.pattern_given {before after : String} (h : Reads kind operator given value)
    (hOperator : operator.wildcards? = some (before, after)) : ¬Wordless given := by
  obtain ⟨raw, s, hGiven, hText, hBlank, -⟩ := h.eq_pattern hOperator
  exact fun hWordless => hBlank (hWordless raw s hGiven hText)

theorem Reads.scalar_given {c : Comparator} (h : Reads kind operator given value)
    (hOperator : operator.comparison? = some c) : ∃ raw s x, given = some raw ∧
      verbatim? raw = some s ∧ ¬isBlankText s ∧ Denotes kind (trim s) x := by
  obtain ⟨raw, s, x, hGiven, hText, hBlank, hOperand, -⟩ := h.eq_scalar hOperator
  exact ⟨raw, s, x, hGiven, hText, hBlank, hOperand⟩

/-- Each text that an operator compares with has to denote something. -/
theorem Reads.denotes {s : String} (h : Reads kind operator given value)
    (hCompares : operator.ComparesWith given s) : ∃ x, Denotes kind s x := by
  cases hCompares with
  | scalar hOperator hText =>
      obtain ⟨raw, s, x, hGiven, hOwn, -, hOperand⟩ := h.scalar_given hOperator
      cases hGiven
      obtain rfl := Option.some.inj (hText.symm.trans hOwn)
      exact ⟨x, hOperand⟩
  | bound hTexts hBound =>
      obtain ⟨raw, low, high, x, y, hGiven, hOwn, hLow, hHigh⟩ := h.bounds_given
      cases hGiven
      cases hTexts.unique hOwn
      rcases hBound with rfl | rfl
      · exact ⟨x, hLow⟩
      · exact ⟨y, hHigh⟩

end FilterValue

/-- A list of texts is a value, even an empty one. -/
theorem Json.Lists.not_missing {value : Json} {texts : List String} (h : value.Lists texts) :
    ¬Missing (some value) := by
  rintro (hNone | hNull)
  · cases hNone
  · cases hNull
    cases h

/-- A value with a fault stands for nothing. -/
theorem ValueFault.Blames.not_reads (h : fault.Blames kind operator given) :
    ¬FilterValue.Reads kind operator given value := by
  intro hReads
  cases fault with
  | listMissing =>
      obtain ⟨raw, texts, rfl, hTexts⟩ := hReads.members_given h.1
      exact hTexts.not_missing h.2
  | notAList =>
      obtain ⟨raw, texts, rfl, hTexts⟩ := hReads.members_given h.1
      obtain ⟨-, _, hRaw, hNone⟩ := h
      cases hRaw
      exact hNone texts hTexts
  | boundsMissing =>
      obtain ⟨rfl, hMissing⟩ := h
      obtain ⟨raw, low, high, x, y, rfl, hTexts, -⟩ := hReads.bounds_given
      exact hTexts.not_missing hMissing
  | notBounds =>
      obtain ⟨rfl, _, hRaw, hNone⟩ := h
      obtain ⟨raw, low, high, x, y, rfl, hTexts, -⟩ := hReads.bounds_given
      cases hRaw
      exact hNone _ hTexts
  | boundCount found =>
      obtain ⟨rfl, hFound, _, texts, hRaw, hTexts, hLength⟩ := h
      obtain ⟨raw, low, high, x, y, rfl, hOwn, -⟩ := hReads.bounds_given
      cases hRaw
      cases hTexts.unique hOwn
      exact hFound hLength.symm
  | patternMissing =>
      obtain ⟨hOperator, hWordless⟩ := h
      obtain ⟨⟨before, after⟩, hOperator⟩ := Option.isSome_iff_exists.mp hOperator
      exact hReads.pattern_given hOperator hWordless
  | scalarMissing =>
      obtain ⟨hOperator, hWordless⟩ := h
      obtain ⟨c, hOperator⟩ := Option.isSome_iff_exists.mp hOperator
      obtain ⟨raw, s, x, hGiven, hText, hBlank, -⟩ := hReads.scalar_given hOperator
      exact hBlank (hWordless raw s hGiven hText)
  | notANumber s =>
      obtain ⟨rfl, hCompares, hNothing⟩ := h
      obtain ⟨x, hOperand⟩ := hReads.denotes hCompares
      exact hNothing x hOperand
  | notADate s =>
      obtain ⟨rfl, hCompares, hNothing⟩ := h
      obtain ⟨x, hOperand⟩ := hReads.denotes hCompares
      exact hNothing x hOperand

end Crosstab
