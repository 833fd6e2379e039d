import Crosstab.Proofs.Catalog.Load
import Crosstab.Proofs.Plan.Calendar
import Crosstab.Proofs.Plan.Resolve
import Crosstab.Proofs.Plan.ValueFault
import Crosstab.Proofs.Statement.Placeholders

/-!
Dates that filters compare with. Date columns are compared with texts of the form of dates, which
are bound as they are, and with nothing else; an accepted specification with other texts in a filter
is rejected for that filter. Whether the calendar has the dates is not checked.
-/

namespace Crosstab

open Crosstab.Text

/-- Operators that compare with a single value or with two bounds. -/
def FilterOperator.Compares (operator : FilterOperator) : Prop :=
  operator.comparison?.isSome ∨ operator = .between

theorem FilterOperator.Compares.isNullary_eq_false {operator : FilterOperator}
    (h : operator.Compares) : operator.isNullary = false := by
  refine FilterOperator.isNullary_eq_false ?_ ?_ <;>
    · rintro rfl
      simp [Compares, comparison?] at h

/-- A value that holds texts to compare with, all of which have the form of dates. -/
def HoldsDates (operator : FilterOperator) (given : Option Json) : Prop :=
  (∃ s, operator.ComparesWith given s) ∧ ∀ s, operator.ComparesWith given s → IsDate s.toList

namespace Spec

def refiltered (spec : Spec) (filters : List Filter) : Spec := { spec with filters }

variable {spec : Spec} {c : Catalog} {maxLimit : UInt64} {plan : Plan} {filters : List Filter}

/-- Other filters on the same columns refer to the same entities. -/
theorem referencedEntities_refiltered
    (h : filters.map Filter.column = spec.filters.map Filter.column) :
    (spec.refiltered filters).referencedEntities = spec.referencedEntities := by
  simp only [referencedEntities, columns, refiltered, h]
  rfl

/-- Filters on the same columns change nothing of a plan but its filters, and whether they are read
decides alone on whether there is a plan. -/
theorem resolve_refiltered (hSpec : spec.resolve c maxLimit = .ok plan)
    (hColumns : filters.map Filter.column = spec.filters.map Filter.column) :
    (spec.refiltered filters).resolve c maxLimit =
      (filters.mapM c.resolveFilter).map fun planned => { plan with filters := planned } := by
  have hReferenced := referencedEntities_refiltered hColumns
  have hKeys : (spec.refiltered filters).keys = spec.keys := rfl
  have hAxes : (spec.refiltered filters).axes = spec.axes := rfl
  simp only [resolve, guard_eq_ok, bind_eq_ok, pure, Except.pure, Except.ok.injEq] at hSpec
  obtain ⟨hLimit, hProjects, _, hChecked, _, hEntities, _, hDimensions, _, hColumnDimensions, _,
    hMeasures, _, -, _, hSorts, _, hCombined, rfl⟩ := hSpec
  simp only [resolve, hReferenced, hKeys, hAxes]
  simp only [refiltered, hLimit, hProjects, hChecked, hEntities, hDimensions, hColumnDimensions,
    hMeasures, hSorts, hCombined]
  cases filters.mapM c.resolveFilter <;> rfl

end Spec

variable {operator : FilterOperator} {given : Option Json} {value : FilterValue}

/-- The values that are read for date columns are the texts compared with, as they are. -/
theorem FilterValue.Reads.dates (h : Reads .date operator given value)
    (hCompares : operator.Compares) : value.values ≠ [] ∧ ∀ v ∈ value.values, ∃ s, v = .text s ∧
      operator.ComparesWith given s ∧ IsDate s.toList := by
  rcases hCompares with hScalar | rfl
  · obtain ⟨c, hOperator⟩ := Option.isSome_iff_exists.mp hScalar
    obtain ⟨raw, t, x, rfl, hText, -, hOperand, rfl⟩ := h.eq_scalar hOperator
    cases hOperand with | date hForm =>
    refine ⟨List.cons_ne_nil _ _, ?_⟩
    intro v hMem
    obtain rfl := List.mem_singleton.mp hMem
    exact ⟨_, rfl, .scalar hOperator hText, hForm⟩
  · obtain ⟨raw, low, high, x, y, rfl, hTexts, hLow, hHigh, rfl⟩ := h.eq_range
    cases hLow with | date hLow =>
    cases hHigh with | date hHigh =>
    refine ⟨List.cons_ne_nil _ _, ?_⟩
    intro v hMem
    rcases List.mem_pair.mp hMem with rfl | rfl
    · exact ⟨_, rfl, .bound hTexts (.inl rfl), hLow⟩
    · exact ⟨_, rfl, .bound hTexts (.inr rfl), hHigh⟩

/-- A value is read for a date column just if it holds dates. -/
theorem exists_reads_iff_holdsDates (hCompares : operator.Compares) :
    (∃ value, FilterValue.Reads .date operator given value) ↔ HoldsDates operator given := by
  constructor
  · rintro ⟨value, hReads⟩
    obtain ⟨hGiven, hDates⟩ := hReads.dates hCompares
    obtain ⟨v, hMem⟩ := List.exists_mem_of_ne_nil _ hGiven
    obtain ⟨s, -, hWith, -⟩ := hDates v hMem
    refine ⟨⟨s, hWith⟩, ?_⟩
    intro t hOther
    obtain ⟨_, hDenotes⟩ := hReads.denotes hOther
    cases hDenotes with | date hForm => exact hForm
  · rintro ⟨⟨s, hWith⟩, hDates⟩
    cases hWith with
    | @scalar _ c raw t hOperator hText =>
        have hDate := hDates _ (.scalar hOperator hText)
        -- Blank texts have not the form of dates, so nothing but dates has to be required.
        have hGiven : ¬isBlankText t := by
          rw [← trim_eq_empty]
          intro hEmpty
          rw [hEmpty] at hDate
          exact absurd hDate (by decide)
        exact ⟨_, .scalar hOperator hText hGiven (.date hDate)⟩
    | bound hTexts =>
        exact ⟨_, .bounds hTexts (.date (hDates _ (.bound hTexts (.inl rfl))))
          (.date (hDates _ (.bound hTexts (.inr rfl))))⟩

/-- With dates in a filter an accepted specification stays accepted, and with anything else it is
rejected for that filter. -/
theorem Spec.resolve_redated {spec : Spec} {c : Catalog} {maxLimit : UInt64} {plan : Plan}
    {before after : List Filter} {f : Filter} {entry : Column}
    (hSpec : spec.resolve c maxLimit = .ok plan) (hFilters : spec.filters = before ++ f :: after)
    (hCompares : f.operator.Compares)
    (hEntry : c.column? f.column.entity f.column.field = some entry) (hKind : entry.kind = .date)
    (given : Option Json) :
    (HoldsDates f.operator given → ∃ other,
      (spec.refiltered (before ++ { f with value := given } :: after)).resolve c maxLimit =
        .ok other) ∧
    (¬HoldsDates f.operator given → ∃ fault : ValueFault,
      fault.Blames .date f.operator given ∧
      (spec.refiltered (before ++ { f with value := given } :: after)).resolve c maxLimit =
        .error (.spec (.invalidValue entry.entity entry.field f.operator fault))) := by
  have hColumns : (before ++ { f with value := given } :: after).map Filter.column =
      spec.filters.map Filter.column := by
    simp only [hFilters, List.map_append, List.map_cons]
  -- The filters before and after the changed one are read as they were.
  have hRead := mapM_eq_ok.mpr (Spec.resolve_ok hSpec).filters
  rw [hFilters, List.mapM_append, List.mapM_cons] at hRead
  simp only [bind_eq_ok] at hRead
  obtain ⟨front, hBefore, _, ⟨own, hOwn, back, hAfter, -⟩, -⟩ := hRead
  have hColumn : c.resolveColumn f.column = .ok entry := by
    have hFound := (Catalog.resolveFilter_eq_ok.mp hOwn).2.1
    exact Catalog.resolveColumn_eq_ok.mpr ⟨(Catalog.resolveColumn_eq_ok.mp hFound).1, hEntry⟩
  rw [Spec.resolve_refiltered hSpec hColumns, List.mapM_append, List.mapM_cons, hBefore]
  constructor
  · intro hDates
    obtain ⟨value, hReads⟩ := (exists_reads_iff_holdsDates hCompares).mpr hDates
    have hOk : c.resolveFilter { f with value := given } = .ok ⟨entry, f.operator, value⟩ :=
      Catalog.resolveFilter_eq_ok.mpr ⟨rfl, hColumn, FilterValue.read_eq_ok.mpr (hKind ▸ hReads)⟩
    rw [hOk, hAfter]
    exact ⟨_, rfl⟩
  · intro hOther
    cases hGiven : FilterValue.read .date f.operator given with
    | ok value =>
        have hReads := FilterValue.read_eq_ok.mp hGiven
        exact absurd ((exists_reads_iff_holdsDates hCompares).mp ⟨value, hReads⟩) hOther
    | error fault =>
        have hFails : c.resolveFilter { f with value := given } =
            .error (.spec (.invalidValue entry.entity entry.field f.operator fault)) := by
          rw [Catalog.resolveFilter, bind_eq_error]
          exact .inr ⟨entry, hColumn, by rw [hKind, hGiven]⟩
        rw [hFails]
        exact ⟨fault, FilterValue.blames_of_read hGiven, rfl⟩

/-- Filters that compare date columns bind the texts that they are given, each of which has the form
of a date, and with other texts in place of them a specification is accepted just if these have it
too, or else rejected for that filter. Among the texts of that form are all dates of the calendar;
the others have a character that is not ASCII or a field out of range. -/
theorem dates_compared {spec : Spec} {c : Catalog} {maxLimit : UInt64} {plan : Plan}
    (hSpec : spec.resolve c maxLimit = .ok plan) :
    List.Forall₂ (fun given f => f.operator.Compares → f.column.kind = .date →
        f.operands ≠ [] ∧ ∀ v ∈ f.operands, ∃ s, v = .text s ∧
          f.operator.ComparesWith given.value s ∧ IsDate s.toList)
      spec.filters plan.filters ∧
    (∀ before f after entry given, spec.filters = before ++ f :: after → f.operator.Compares →
      c.column? f.column.entity f.column.field = some entry → entry.kind = .date →
      (HoldsDates f.operator given → ∃ other, (spec.refiltered
        (before ++ { f with value := given } :: after)).resolve c maxLimit = .ok other) ∧
      (¬HoldsDates f.operator given → ∃ fault : ValueFault, fault.Blames .date f.operator given ∧
        (spec.refiltered (before ++ { f with value := given } :: after)).resolve c maxLimit =
          .error (.spec (.invalidValue entry.entity entry.field f.operator fault)))) ∧
    ∀ cs, IsCalendarDate cs ↔ IsDate cs ∧ IsAscii cs ∧ WithinCalendar cs := by
  refine ⟨(Spec.resolve_ok hSpec).filters.imp fun given f hFilter hCompares hKind => ?_, ?_,
    fun cs => isCalendarDate_iff⟩
  · obtain ⟨hOperator, -, hRead⟩ := Catalog.resolveFilter_eq_ok.mp hFilter
    rw [hKind, ← hOperator] at hRead
    rw [f.operands_eq, hCompares.isNullary_eq_false]
    exact (FilterValue.read_eq_ok.mp hRead).dates hCompares
  · intro before f after entry given hFilters hCompares hEntry hKind
    exact Spec.resolve_redated hSpec hFilters hCompares hEntry hKind given

/-- The revenue for each category of what was received on a day. -/
def Spec.receivedOn (day : String) : Spec where
  entities := ["inventory"]
  dimensions := [{ column := { entity := "inventory", field := "category" }, key := "category" }]
  measures := [{
    column := { entity := "inventory", field := "revenue" },
    aggregation := .sum, key := "revenue" }]
  filters := [⟨{ entity := "inventory", field := "receivedDate" }, .equals, some (.text day)⟩]
  limit := 10

/-- What was received on a leap day can be asked for, but not by that name. -/
theorem compared_leapDay : ∃ plan fault, Catalog.load Registry.builtin.source = .ok .builtin ∧
    (Spec.receivedOn "2024-02-29").resolve .builtin 1000 = .ok plan ∧
    plan.filters.flatMap PlannedFilter.operands = [.text "2024-02-29"] ∧
    IsCalendarDate "2024-02-29".toList ∧
    (Spec.receivedOn "leap day").resolve .builtin 1000 =
      .error (.spec (.invalidValue "inventory" "receivedDate" .equals fault)) := by
  have hSpec : (Spec.receivedOn "2024-02-29").resolve .builtin 1000 = .ok _ := rfl
  obtain ⟨-, hRedated, hCalendar⟩ := dates_compared hSpec
  have hWord : ¬HoldsDates .equals (some (.text "leap day")) := by
    rintro ⟨-, hDates⟩
    exact absurd (hDates _ (.scalar rfl rfl)) (by decide +kernel)
  obtain ⟨fault, -, hRejected⟩ := (hRedated [] _ [] _ (some (.text "leap day")) rfl (.inl rfl) rfl
    rfl).2 hWord
  have hDate : IsCalendarDate "2024-02-29".toList := (hCalendar _).mpr (by decide +kernel)
  exact ⟨_, fault, rfl, hSpec, rfl, hDate, hRejected⟩

/-- The thirtieth of February can be asked for as well, and so can a day in digits of another
script. -/
theorem accepted_thirtiethOfFebruary :
    ∃ c plan other, Catalog.load Registry.builtin.source = .ok c ∧
    (Spec.receivedOn "2024-02-30").resolve c 1000 = .ok plan ∧
    plan.filters.flatMap PlannedFilter.operands = [.text "2024-02-30"] ∧
    ¬IsCalendarDate "2024-02-30".toList ∧
    (Spec.receivedOn "２０２４-02-29").resolve c 1000 = .ok other ∧
    other.filters.flatMap PlannedFilter.operands = [.text "２０２４-02-29"] ∧
    ¬IsCalendarDate "２０２４-02-29".toList := by
  refine ⟨_, _, _, rfl, rfl, rfl, ?_, rfl, rfl, ?_⟩
  · decide +kernel
  · decide +kernel

end Crosstab
