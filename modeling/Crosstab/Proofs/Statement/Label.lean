import Crosstab.Proofs.Sql.Meaning
import Crosstab.Proofs.Statement.Test

/-!
Filters by label. A row is grouped under the label of its column, which also rows without a value
have; so a test for membership of the label is true or false of every row, and a test against
membership is the opposite of it. Lists of labels that have been reported are found again as they
are.
-/

namespace Crosstab

open Crosstab.Sql

namespace Sql

/-- The label of a value: its text in capitals, or that of a missing value. -/
def StoredRow.label (row : StoredRow) (x : Datum) : String :=
  row.upper (x.text?.getD missingLabel)

variable {row : StoredRow} {values : List Value} {e : Expr} {x : Datum}

theorem datum?_upper (h : e.datum? row values = some x) :
    e.upper.datum? row values = x.capitals? row.upper := by
  simp [Expr.upper, Expr.datum?, exprData?, h, StoredRow.call?]

/-- The grouped form of a value is its label. -/
theorem datum?_groupLabel (h : e.datum? row values = some x) :
    (groupLabel e).datum? row values = some (.text (row.label x)) := by
  have hFilled : (Expr.coalesce [.cast e .text, .text missingLabel]).datum? row values =
      some (.text (x.text?.getD missingLabel)) := by
    simp only [Expr.coalesce, Expr.datum?, exprData?, h, Option.map_some, Option.bind_some,
      StoredRow.call?]
    cases x <;> simp [Datum.coalesce, Datum.text?, Datum.ofText?]
  exact datum?_upper hFilled

/-- A placeholder stands for the value of its number. -/
theorem datum?_upper_param {n : Nat} {s : String} (h : values[n]? = some (.text s)) :
    (Expr.upper (.param (n + 1))).datum? row values = some (.text (row.upper s)) := by
  have hBound : (Expr.param (n + 1)).datum? row values = some (.text s) := by
    simp [Expr.datum?, h, Value.datum?]
  exact datum?_upper hBound

/-- Values that are bound one after the other begin with the value of the first number. -/
theorem getElem?_of_bound {v : Value} {others : List Value} {n : Nat}
    (h : v :: others <+: values.drop n) : values[n]? = some v := by
  obtain ⟨rest, hRest⟩ := h
  rw [← List.head?_drop, ← hRest]
  rfl

/-- Placeholders numbered one after the other stand for values that are bound one after the
other. -/
theorem exprData?_members {items : List String} {n : Nat}
    (hBound : items.map Value.text <+: values.drop n) :
    exprData? row values ((List.range' (n + 1) items.length).map fun n => .upper (.param n)) =
      some (items.map fun s => .text (row.upper s)) := by
  induction items generalizing n with
  | nil => rfl
  | cons s items ih =>
      have hOthers : items.map Value.text <+: values.drop (n + 1) := by
        obtain ⟨rest, hRest⟩ := hBound
        rw [← List.tail_drop, ← hRest]
        exact ⟨rest, rfl⟩
      have hFirst := getElem?_of_bound hBound
      rw [List.length_cons, List.range'_succ, List.map_cons, exprData?, datum?_upper_param hFirst,
        ih hOthers]
      rfl

namespace Datum

/-- Among texts, a text is found by equality. -/
theorem among?_texts (s : String) (ts : List String) :
    (Datum.text s).among? (ts.map .text) = some (.truth (s ∈ ts)) := by
  have hEach : (ts.map Datum.text).mapM (Datum.text s).equals? =
      some (ts.map fun t => .truth (s = t)) := by
    rw [mapM_eq_some]
    exact forall₂_map (List.forall₂_same.mpr fun t _ => rfl)
  rw [among?, hEach, Option.map_some, any]
  by_cases hMem : s ∈ ts <;> simp [hMem]

end Datum

/-- A test for membership says whether the label is one of the members in capitals. -/
theorem datum?_among {members : List String} {n : Nat} (hColumn : e.datum? row values = some x)
    (hBound : members.map Value.text <+: values.drop n) (negated : Bool) :
    (Expr.among negated (groupLabel e) ((List.range' (n + 1) members.length).map
      fun n => .upper (.param n))).datum? row values =
        some (.truth (decide (row.label x ∈ members.map row.upper) != negated)) := by
  have hMembers : (members.map fun s => Datum.text (row.upper s)) =
      (members.map row.upper).map Datum.text := by simp
  rw [Expr.datum?, datum?_groupLabel hColumn, exprData?_members hBound, hMembers]
  simp only [Datum.among?_texts, Option.map_some]
  rfl

end Sql

/-- What is related to something that is related to a third thing is related to that. -/
theorem forall₂_comp {α β γ : Type} {r : α → β → Prop} {t : β → γ → Prop} {xs : List α}
    {ys : List β} {zs : List γ} (hLeft : List.Forall₂ r xs ys) (hRight : List.Forall₂ t ys zs) :
    List.Forall₂ (fun x z => ∃ y, r x y ∧ t y z) xs zs := by
  induction hLeft generalizing zs with
  | nil =>
      cases hRight
      exact .nil
  | cons hFirst _ ih =>
      cases hRight with
      | cons hSecond hRest => exact .cons ⟨_, hFirst, hSecond⟩ (ih hRest)

/-- The value of a column in a row, where statements of a plan look for it. -/
def Plan.datum (plan : Plan) (names : Naming) (row : StoredRow) (column : Column) : Datum :=
  row.column (some (if column.entity = plan.anchor then leftName else rightName))
    (names.column column.entity column.field)

/-- A column is evaluated to what the row has under it. -/
theorem Plan.datum?_columnExpr (plan : Plan) (names : Naming) (row : StoredRow)
    (values : List Value) (column : Column) :
    (plan.columnExpr names column).datum? row values = some (plan.datum names row column) := rfl

/-- Each filter of a specification has its own test in the statement, in which it is kept in
full. -/
theorem Spec.ResolvesTo.tested {spec : Spec} {c : Catalog} {maxLimit : UInt64} {plan : Plan}
    (h : spec.ResolvesTo c maxLimit plan) (names : Naming) (d : Dialect) (sourceLimit : UInt64) :
    ∃ s clauses tests, plan.clauses names d = .ok clauses ∧
      plan.compile names d sourceLimit = .ok s ∧ s.query.items = plan.items names ∧
      s.query.conditions = clauses.2 ++ tests ∧
      List.Forall₂ (fun given test => ∃ f : PlannedFilter, f.operator = given.operator ∧
        c.column? given.column.entity given.column.field = some f.column ∧
        FilterValue.Reads f.column.kind given.operator given.value f.value ∧
        f.Kept (plan.columnExpr names f.column) s.values test) spec.filters tests := by
  have hSuits (f : PlannedFilter) (hMem : f ∈ plan.filters) :
      f.value.Suits f.column.kind f.operator := by
    obtain ⟨given, -, hFilter⟩ := exists_of_forall₂_right h.filters hMem
    obtain ⟨hOperator, -, hValue⟩ := Catalog.resolveFilter_eq_ok.mp hFilter
    exact hOperator ▸ (FilterValue.read_eq_ok.mp hValue).suits
  obtain ⟨clauses, hClauses, hCompile, -⟩ := plan.compile_eq_ok names d sourceLimit
  refine ⟨_, clauses, _, hClauses, hCompile, rfl, rfl, ?_⟩
  apply (forall₂_comp h.filters (plan.kept_filterConditions names hSuits {})).imp
  rintro given test ⟨f, hFilter, hKept⟩
  obtain ⟨hOperator, hColumn, hValue⟩ := Catalog.resolveFilter_eq_ok.mp hFilter
  obtain ⟨-, hEntry⟩ := Catalog.resolveColumn_eq_ok.mp hColumn
  exact ⟨f, hOperator, hEntry, FilterValue.read_eq_ok.mp hValue, hKept⟩

/-- What a test of labels says of a row with a given label. The test is written for an operator and
for the members that a raw value lists. -/
structure LabelTest (row : StoredRow) (values : List Value) (label : String)
    (operator : FilterOperator) (raw : Json) (test : Expr) : Prop where
  isIn : operator = .isIn → ∃ members, raw.Lists members ∧
    test.datum? row values = some (.truth (∃ member ∈ members, label = row.upper member))
  notIn : operator = .notIn → ∃ members, raw.Lists members ∧
    test.datum? row values = some (.truth (¬∃ member ∈ members, label = row.upper member))
  /-- Rows are found by their own labels. -/
  reported : operator = .isIn → (∀ s, row.upper (row.upper s) = row.upper s) →
    ∀ labels : List String, raw = .list (labels.map .text) →
      (∀ member ∈ labels, ∃ x, member = row.label x) →
        test.datum? row values = some (.truth (label ∈ labels))
  /-- Without members, the test is written as its outcome. -/
  empty : raw.Lists [] → ∀ d,
    test.tokens d = [.keyword (if operator = .notIn then .true else .false)]

/-- A list of texts lists just them. -/
theorem Json.lists_texts (labels : List String) : (Json.list (labels.map .text)).Lists labels :=
  .members (List.forall₂_map_left_iff.mpr (List.forall₂_same.mpr fun _ _ => rfl))

/-- Tests for membership compare labels with members in capitals. -/
theorem FilterOperator.Tests.eq_among {operator : FilterOperator} {kind : ValueKind}
    {column test : Expr} {first size : Nat} (h : operator.Tests kind column first size test)
    (hOperator : operator ∈ [.isIn, .notIn]) : test = .among (operator = .notIn) (groupLabel column)
      ((List.range' first size).map fun n => .upper (.param n)) := by
  cases h with
  | isIn => rfl
  | notIn => rfl
  | like hOther => cases operator <;> simp at hOperator hOther
  | compare hOther => cases operator <;> simp [FilterOperator.comparison?] at hOperator hOther
  | _ => simp at hOperator

/-- The values of a filter that is kept are bound, and its test counts on from where they are. -/
theorem PlannedFilter.Kept.exists_bound {f : PlannedFilter} {column test : Expr}
    {values : List Value} (h : f.Kept column values test) : ∃ n, f.value.values <+: values.drop n ∧
      f.operator.Tests f.column.kind column (n + 1) f.value.values.length test := by
  obtain ⟨first, hFirst, hBound, hTests⟩ := h.tested
  refine ⟨first - 1, hBound, ?_⟩
  rwa [Nat.sub_add_cancel hFirst]

/-- A kept test for membership tests labels. -/
theorem PlannedFilter.Kept.labelTest {f : PlannedFilter} {kind : ValueKind} {raw : Json}
    {column test : Expr} {values : List Value} {row : StoredRow} {x : Datum}
    (hKept : f.Kept column values test) (hOperator : f.operator ∈ [.isIn, .notIn])
    (hReads : FilterValue.Reads kind f.operator (some raw) f.value)
    (hColumn : column.datum? row values = some x) :
    LabelTest row values (row.label x) f.operator raw test := by
  obtain ⟨_, members, hRaw, hLists, hValue⟩ := hReads.eq_list hOperator
  cases hRaw
  obtain ⟨n, hBound, hTests⟩ := hKept.exists_bound
  have hValues : f.value.values = members.map .text := by rw [hValue, FilterValue.values]
  rw [hValues] at hBound hTests
  have hMeaning : test.datum? row values = some (.truth
      (decide (row.label x ∈ members.map row.upper) != decide (f.operator = .notIn))) := by
    rw [hTests.eq_among hOperator, List.length_map, datum?_among hColumn hBound]
  have hSame : row.label x ∈ members.map row.upper ↔
      ∃ member ∈ members, row.label x = row.upper member := by
    simp only [List.mem_map, eq_comm]
  refine ⟨?isIn, ?notIn, ?reported, ?empty⟩
  case isIn =>
    intro hIn
    exact ⟨members, hLists, by simp [hMeaning, hIn, hSame]⟩
  case notIn =>
    intro hNot
    have hOther : (!decide (row.label x ∈ members.map row.upper)) =
        decide (¬∃ member ∈ members, row.label x = row.upper member) := by
      rw [← decide_not]
      exact decide_eq_decide.mpr (not_congr hSame)
    exact ⟨members, hLists, by simp only [hMeaning, hNot, ← hOther, decide_true, Bool.bne_true]⟩
  case reported =>
    intro hIn hIdempotent labels hRaw hReported
    obtain rfl : members = labels := hLists.unique (hRaw ▸ Json.lists_texts labels)
    have hOwn : members.map row.upper = members.map id := by
      apply List.map_congr_left
      intro member hMem
      obtain ⟨y, rfl⟩ := hReported member hMem
      exact hIdempotent _
    simp [hMeaning, hIn, hOwn]
  case empty =>
    intro hNone d
    obtain rfl : members = [] := hLists.unique hNone
    rw [hTests.eq_among hOperator]
    simp [Expr.tokens]

/-- Filters by label leave no row undecided. A filter `in` keeps the rows whose label is one of its
members in capitals, and no others; a filter `not_in` with the same value on the same column keeps
just those that the former leaves out. -/
theorem labels_tested {spec : Spec} {c : Catalog} {maxLimit : UInt64} {plan : Plan}
    (hSpec : spec.resolve c maxLimit = .ok plan) (names : Naming) (d : Dialect)
    (sourceLimit : UInt64) :
    ∃ s clauses tests, plan.clauses names d = .ok clauses ∧
      plan.compile names d sourceLimit = .ok s ∧ s.query.conditions = clauses.2 ++ tests ∧
      spec.filters.length = tests.length ∧
      (∀ axis ∈ plan.axes, ∃ item ∈ s.query.items, item.name = some axis.key ∧ ∀ row,
        item.expr.datum? row s.values =
          some (.text (row.label (plan.datum names row axis.column)))) ∧
      ∀ given test, (given, test) ∈ spec.filters.zip tests → given.operator ∈ [.isIn, .notIn] →
        ∃ column raw, c.column? given.column.entity given.column.field = some column ∧
          given.value = some raw ∧
          (∀ row, LabelTest row s.values (row.label (plan.datum names row column))
            given.operator raw test) ∧
          ∀ other otherTest, (other, otherTest) ∈ spec.filters.zip tests →
            other.column = given.column → other.value = given.value → given.operator = .isIn →
            other.operator = .notIn → ∀ row, ∃ b, test.datum? row s.values = some (.truth b) ∧
              otherTest.datum? row s.values = some (.truth !b) := by
  have hPlan := Spec.resolve_ok hSpec
  obtain ⟨s, clauses, tests, hClauses, hCompile, hItems, hConditions, hTested⟩ :=
    hPlan.tested names d sourceLimit
  have hLabels (given : Filter) (test : Expr) (hPair : (given, test) ∈ spec.filters.zip tests)
      (hOperator : given.operator ∈ [.isIn, .notIn]) : ∃ column raw,
        c.column? given.column.entity given.column.field = some column ∧ given.value = some raw ∧
        ∀ row, LabelTest row s.values (row.label (plan.datum names row column)) given.operator raw
          test := by
    obtain ⟨f, hSame, hColumn, hReads, hKept⟩ := List.forall₂_zip hTested hPair
    obtain ⟨raw, -, hValue, -, -⟩ := hReads.eq_list hOperator
    rw [← hSame] at hOperator hReads ⊢
    rw [hValue] at hReads
    have hTest (row : StoredRow) := hKept.labelTest hOperator hReads
      (plan.datum?_columnExpr names row s.values f.column)
    exact ⟨f.column, raw, hColumn, hValue, hTest⟩
  refine ⟨s, clauses, tests, hClauses, hCompile, hConditions, hTested.length_eq, ?_, ?_⟩
  · intro axis hAxis
    have hItem : ⟨groupLabel (plan.columnExpr names axis.column), some axis.key⟩ ∈
        s.query.items := by
      rw [hItems]
      exact List.mem_append_left _ (List.mem_map_of_mem hAxis)
    have hLabel (row : StoredRow) :=
      datum?_groupLabel (plan.datum?_columnExpr names row s.values axis.column)
    exact ⟨_, hItem, rfl, hLabel⟩
  · intro given test hPair hOperator
    obtain ⟨column, raw, hColumn, hValue, hTest⟩ := hLabels given test hPair hOperator
    refine ⟨column, raw, hColumn, hValue, hTest, ?_⟩
    intro other otherTest hOther hSameColumn hSameValue hIn hNot row
    obtain ⟨_, _, hOtherColumn, hOtherValue, hOtherTest⟩ :=
      hLabels other otherTest hOther (by simp [hNot])
    cases (hSameColumn ▸ hOtherColumn).symm.trans hColumn
    cases (hSameValue ▸ hOtherValue).symm.trans hValue
    obtain ⟨members, hLists, hMeaning⟩ := (hTest row).isIn hIn
    obtain ⟨_, hOtherLists, hOtherMeaning⟩ := (hOtherTest row).notIn hNot
    rw [hOtherLists.unique hLists, decide_not] at hOtherMeaning
    exact ⟨_, hMeaning, hOtherMeaning⟩

/-- The refunds for each reason twice over: for some reasons, and for all others. -/
def Spec.refundsLabelled (labels : List String) : Spec :=
  let reason : Column := { entity := "returns", field := "reason" }
  { Spec.refundsByReason with
    filters := [
      ⟨reason, .isIn, some (.list (labels.map .text))⟩,
      ⟨reason, .notIn, some (.list (labels.map .text))⟩] }

/-- A listed label finds the rows that are reported under it, also those without a value. -/
theorem labels_tested_refunds : ∃ c plan s probe isIn notIn,
    (Spec.refundsLabelled ["DAMAGED, OR LATE ", "UNKNOWN"]).resolve c 10 = .ok plan ∧
    plan.compile {} .sqlite 100 = .ok s ∧ s.query.conditions = [probe, isIn, notIn] ∧
    -- Rows without a reason are found by their label.
    ∀ row : StoredRow, row.upper = String.toUpper → row.column (some "l") "reason" = .null →
      isIn.datum? row s.values = some (.truth true) ∧
        notIn.datum? row s.values = some (.truth false) := by
  let c : Catalog := ⟨Builtin.entities, [("inventory", Builtin.inventoryColumns),
    ("returns", Builtin.returnColumns)], Builtin.joins⟩
  obtain ⟨s, clauses, tests, hClauses, hCompile, hConditions, -, -, hTested⟩ :=
    @labels_tested (.refundsLabelled ["DAMAGED, OR LATE ", "UNKNOWN"]) c 10 _ rfl {} .sqlite 100
  cases hClauses
  cases hCompile
  obtain rfl := List.append_cancel_left hConditions
  refine ⟨c, _, _, _, _, _, rfl, rfl, rfl, ?_⟩
  intro row hUpper hNull
  obtain ⟨_, _, hColumn, hValue, hLabels, hOpposite⟩ := hTested _ _ (.head _) (by decide)
  cases hColumn
  cases hValue
  obtain ⟨b, hIn, hNot⟩ := hOpposite _ _ (.tail _ (.head _)) rfl rfl rfl rfl row
  have hLabel : row.label .null = "UNKNOWN" := by
    rw [StoredRow.label, hUpper, ← String.toList_inj, toList_toUpper]
    rfl
  have hReported : ∀ member ∈ ["DAMAGED, OR LATE ", "UNKNOWN"], ∃ x, member = row.label x := by
    simp only [List.forall_mem_cons, List.not_mem_nil, false_implies, implies_true, and_true]
    refine ⟨⟨.text "Damaged, or late ", ?_⟩, ⟨.null, hLabel.symm⟩⟩
    rw [StoredRow.label, hUpper, ← String.toList_inj, toList_toUpper]
    rfl
  have hFound := (hLabels row).reported rfl (fun s => hUpper ▸ toUpper_toUpper s) _ rfl hReported
  have hMember : row.label (row.column (some "l") "reason") ∈ ["DAMAGED, OR LATE ", "UNKNOWN"] := by
    rw [hNull, hLabel]
    decide
  have hTrue : b = true := by
    cases hIn.symm.trans hFound
    exact decide_eq_true hMember
  rw [hTrue] at hIn hNot
  exact ⟨hIn, hNot⟩

end Crosstab
