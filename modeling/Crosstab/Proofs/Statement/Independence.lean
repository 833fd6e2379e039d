import Crosstab.Proofs.Plan.Resolve
import Crosstab.Proofs.Plan.Value
import Crosstab.Proofs.Statement.Placeholders

/-!
Statements and the values of filters. Two specifications that differ in the values of their filters
only have plans that differ in nothing else, and the forms of those values agree except for the
lengths of lists. Conditions are written from these forms, so the texts of the two statements are
the same.
-/

namespace Crosstab

open Crosstab.Sql

/-- The specification without the values of its filters. -/
def Spec.withoutValues (spec : Spec) : Spec :=
  { spec with filters := spec.filters.map fun f => { f with value := none } }

/-- Two filters on the same column, with values of the same form. -/
structure PlannedFilter.Alike (f g : PlannedFilter) : Prop where
  column : f.column = g.column
  operator : f.operator = g.operator
  form : f.value.form = g.value.form

namespace PlannedFilter

variable {f g : PlannedFilter}

/-- Filters that are alike bind equally many values. -/
theorem Alike.length_operands (h : f.Alike g) : f.operands.length = g.operands.length := by
  rw [f.operands_eq, g.operands_eq, h.operator]
  cases g.operator.isNullary
  · simp [FilterValue.length_values, h.form]
  · rfl

/-- What is written for a filter depends on the form of its value only. -/
theorem Alike.condition_eq (h : f.Alike g) (column : Expr) (first : Nat) :
    f.condition column first = g.condition column first := by
  obtain ⟨fColumn, operator, fValue⟩ := f
  obtain ⟨gColumn, gOperator, gValue⟩ := g
  obtain ⟨-, rfl, hForm⟩ := h
  -- Forms of different shape are told apart at once; five pairs of values remain.
  cases fValue <;> cases gValue <;>
    simp only [FilterValue.form, FilterForm.scalar.injEq, FilterForm.range.injEq,
      FilterForm.list.injEq, reduceCtorEq] at hForm
  all_goals cases operator <;> simp [condition, hForm]

end PlannedFilter

/-- A filter with another value has a plan of the same form. In a list, the number of members may
differ. -/
theorem Catalog.alike_of_resolveFilter {c : Catalog} {f g : Filter}
    {fPlanned gPlanned : PlannedFilter} (hFirst : c.resolveFilter f = .ok fPlanned)
    (hSecond : c.resolveFilter g = .ok gPlanned) (hColumn : f.column = g.column)
    (hOperator : f.operator = g.operator) (hSize : fPlanned.operator ∈ [.isIn, .notIn] →
      fPlanned.value.values.length = gPlanned.value.values.length) : fPlanned.Alike gPlanned := by
  obtain ⟨hFirstOperator, hFirstColumn, hFirstRead⟩ := resolveFilter_eq_ok.mp hFirst
  obtain ⟨hSecondOperator, hSecondColumn, hSecondRead⟩ := resolveFilter_eq_ok.mp hSecond
  have hColumns : fPlanned.column = gPlanned.column :=
    Except.ok.inj (hFirstColumn.symm.trans (hColumn ▸ hSecondColumn))
  refine ⟨hColumns, by rw [hFirstOperator, hSecondOperator, hOperator], ?_⟩
  rw [FilterValue.form_read hFirstRead, FilterValue.form_read hSecondRead, hColumns, ← hOperator]
  rw [hFirstOperator] at hSize
  cases hCase : f.operator with
  | isIn | notIn => rw [hSize (by simp [hCase])]
  | _ => rfl

/-- Filters with values of the same form are planned alike. -/
theorem Catalog.alike_of_resolveFilters {c : Catalog} {fs gs : List Filter}
    {fPlanned gPlanned : List PlannedFilter}
    (hSame : fs.map (fun f => { f with value := none }) = gs.map fun f => { f with value := none })
    (hFirst : List.Forall₂ (fun f planned => c.resolveFilter f = .ok planned) fs fPlanned)
    (hSecond : List.Forall₂ (fun f planned => c.resolveFilter f = .ok planned) gs gPlanned)
    (hSize : ∀ pair ∈ fPlanned.zip gPlanned, pair.1.operator ∈ [.isIn, .notIn] →
      pair.1.value.values.length = pair.2.value.values.length) :
    List.Forall₂ PlannedFilter.Alike fPlanned gPlanned := by
  induction hFirst generalizing gs gPlanned with
  | nil =>
      obtain rfl : gs = [] := by simpa using hSame.symm
      cases hSecond
      exact .nil
  | @cons f planned fs fPlanned hFirst _ ih =>
      cases hSecond with
      | nil => simp at hSame
      | @cons g otherPlanned gs gPlanned hSecond hRest =>
          simp only [List.map_cons, List.cons.injEq, Filter.mk.injEq, and_true] at hSame
          simp only [List.zip_cons_cons, List.forall_mem_cons] at hSize
          exact .cons (alike_of_resolveFilter hFirst hSecond hSame.1.1 hSame.1.2 hSize.1)
            (ih hSame.2 hRest hSize.2)

/-- The values of filters show in a plan nowhere but in its own filters. -/
theorem Spec.ResolvesTo.eq_of_withoutValues {spec other : Spec} {c : Catalog} {maxLimit : UInt64}
    {plan otherPlan : Plan} (hSame : spec.withoutValues = other.withoutValues)
    (hSpec : spec.ResolvesTo c maxLimit plan) (hOther : other.ResolvesTo c maxLimit otherPlan) :
    otherPlan = { plan with filters := otherPlan.filters } := by
  obtain ⟨entities, dimensions, columnDimensions, measures, filters, sorts, relationship, limit⟩ :=
    spec
  obtain ⟨_, _, _, _, otherFilters, _, _, _⟩ := other
  simp only [withoutValues, mk.injEq] at hSame
  obtain ⟨rfl, rfl, rfl, rfl, hFilters, rfl, rfl, rfl⟩ := hSame
  have hColumns : filters.map Filter.column = otherFilters.map Filter.column := by
    simpa [Function.comp_def] using congrArg (List.map Filter.column) hFilters
  have hReferenced : otherPlan.referencedEntities = plan.referencedEntities := by
    rw [hOther.referenced, hSpec.referenced]
    simp only [referencedEntities, columns, hColumns]
    rfl
  obtain ⟨warnings, hCombined, hWarnings⟩ := hSpec.combined
  obtain ⟨otherWarnings, hOtherCombined, hOtherWarnings⟩ := hOther.combined
  rw [← hSpec.referenced] at hCombined
  rw [← hOther.referenced, hReferenced] at hOtherCombined
  have hOutcome := Except.ok.inj (hOtherCombined.symm.trans hCombined)
  simp only [Prod.mk.injEq] at hOutcome
  obtain ⟨hAnchor, hJoin, rfl⟩ := hOutcome
  have hLimit : otherPlan.limit = plan.limit := by rw [hOther.limit, hSpec.limit]
  have hDimensions :=
    List.right_unique_forall₂' (rightUnique_ok _) hOther.dimensions hSpec.dimensions
  have hColumnDimensions :=
    List.right_unique_forall₂' (rightUnique_ok _) hOther.columnDimensions hSpec.columnDimensions
  have hMeasures := List.right_unique_forall₂' (rightUnique_ok _) hOther.measures hSpec.measures
  have hSorts := List.right_unique_forall₂' (rightUnique_ok _) hOther.sorts hSpec.sorts
  cases plan
  cases otherPlan
  simp_all

/-- Filters that are alike have the same conditions. -/
theorem Plan.filterConditions_alike {plan other : Plan} (hAnchor : plan.anchor = other.anchor)
    (names : Naming) {fs gs : List PlannedFilter} (h : List.Forall₂ PlannedFilter.Alike fs gs)
    (bound otherBound : Bindings) (hBound : bound.values.length = otherBound.values.length) :
    (plan.filterConditions names fs bound).1 = (other.filterConditions names gs otherBound).1 ∧
      (plan.filterConditions names fs bound).2.values.length =
        (other.filterConditions names gs otherBound).2.values.length := by
  induction h generalizing bound otherBound with
  | nil => exact ⟨rfl, hBound⟩
  | @cons f g fs gs hAlike _ ih =>
      have hNext : bound.next = otherBound.next := by simp [Bindings.next, Bindings.size, hBound]
      have hAppend : (bound.append f.operands).values.length =
          (otherBound.append g.operands).values.length := by
        simp [Bindings.append, hBound, hAlike.length_operands]
      have hColumn : plan.columnExpr names f.column = other.columnExpr names g.column := by
        rw [columnExpr, columnExpr, hAnchor, hAlike.column]
      obtain ⟨hConditions, hValues⟩ := ih _ _ hAppend
      simp only [filterConditions, hConditions, hValues, hColumn, hNext, hAlike.condition_eq,
        and_self]

/-- No filter value enters the text of a statement. Specifications that differ in the values of
their filters only, and whose lists are of equal lengths, have statements with the same text,
columns and limit, and with equally many bound values. -/
theorem sql_independent_of_values {spec other : Spec} {c : Catalog} {maxLimit : UInt64}
    {plan otherPlan : Plan} (hSame : spec.withoutValues = other.withoutValues)
    (hSpec : spec.resolve c maxLimit = .ok plan) (hOther : other.resolve c maxLimit = .ok otherPlan)
    (hSize : ∀ pair ∈ plan.filters.zip otherPlan.filters, pair.1.operator ∈ [.isIn, .notIn] →
      pair.1.value.values.length = pair.2.value.values.length)
    (names : Naming) (d : Dialect) (sourceLimit : UInt64) : ∃ s t,
      plan.compile names d sourceLimit = .ok s ∧ otherPlan.compile names d sourceLimit = .ok t ∧
      s.sql = t.sql ∧ s.columns = t.columns ∧ s.limit = t.limit ∧
      s.values.length = t.values.length := by
  have hPlan := Spec.resolve_ok hSpec
  have hOtherPlan := Spec.resolve_ok hOther
  have hFilters : List.Forall₂ PlannedFilter.Alike plan.filters otherPlan.filters :=
    Catalog.alike_of_resolveFilters (congrArg Spec.filters hSame) hPlan.filters hOtherPlan.filters
      hSize
  have hEq := hPlan.eq_of_withoutValues hSame hOtherPlan
  generalize otherPlan.filters = filters at hFilters hEq
  subst hEq
  obtain ⟨clauses, hClauses, hCompile, -⟩ := plan.compile_eq_ok names d sourceLimit
  have hOtherCompile : ({ plan with filters } : Plan).compile names d sourceLimit =
      .ok (({ plan with filters } : Plan).statement names d sourceLimit clauses) := by
    have hSameClauses : ({ plan with filters } : Plan).clauses names d = .ok clauses := hClauses
    rw [Plan.compile_eq, hSameClauses]
    rfl
  have hAnchor : plan.anchor = ({ plan with filters } : Plan).anchor := rfl
  obtain ⟨hConditions, hValues⟩ := Plan.filterConditions_alike hAnchor names hFilters {} {} rfl
  refine ⟨_, _, hCompile, hOtherCompile, ?_, rfl, rfl, hValues⟩
  simp only [Statement.sql, Plan.statement, hConditions]
  rfl

/-- The brands of the inventory, as far as stock numbers are among given ones. -/
def Spec.brandsAmong (numbers : Json) : Spec where
  dimensions := [{ column := { entity := "inventory", field := "brand" }, key := "brand" }]
  filters := [{
    column := { entity := "inventory", field := "sku" }, operator := .isIn, value := some numbers }]

/-- A list in one text and a list of texts, one of them hostile, give the same statement. -/
theorem sql_independent_of_numbers : ∃ c plan otherPlan s t,
    (Spec.brandsAmong (.text "A1, B2")).resolve c 10 = .ok plan ∧
    (Spec.brandsAmong (.list [.text "", .text "\x27; DROP TABLE"])).resolve c 10 = .ok otherPlan ∧
    plan.compile {} .postgres 100 = .ok s ∧ otherPlan.compile {} .postgres 100 = .ok t ∧
    s.sql = t.sql ∧ s.values.length = t.values.length := by
  let c : Catalog := ⟨Builtin.entities, [("inventory", Builtin.inventoryColumns)], []⟩
  obtain ⟨s, t, hCompile, hOther, hSql, -, -, hValues⟩ :=
    @sql_independent_of_values (.brandsAmong (.text "A1, B2"))
      (.brandsAmong (.list [.text "", .text "\x27; DROP TABLE"])) c 10 _ _ rfl rfl rfl
      (by
        intro pair hMem
        cases hMem with
        | head => exact fun _ => rfl
        | tail _ hRest => cases hRest)
      {} .postgres 100
  exact ⟨c, _, _, s, t, rfl, rfl, hCompile, hOther, hSql, hValues⟩

end Crosstab
