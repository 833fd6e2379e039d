import Crosstab.Proofs.Plan.Resolve
import Crosstab.Proofs.Table.Tabulation
import Crosstab.Report
import Crosstab.Statement.Compile

/-!
Keys of pivoted reports. The values of row axes and the cells of all measures are put into one keyed
list, so that a report is rectangular just if no two of them have the same key. Headers are texts of
the store, and what a cell's key says of its measure stands behind the header; whether keys can meet
is therefore decided by how the keys of a specification end.
-/

namespace Crosstab

open Crosstab.Pivot

/-- Every row has a value under each column and nothing else, and no two columns have the same
key. -/
structure Report.IsRectangular (report : Report) : Prop where
  distinct : (report.columns.map ReportColumn.key).Nodup
  filled : ∀ row ∈ report.rows, row.map Prod.fst = report.columns.map ReportColumn.key

/-- What the keys of a measure's cells end with, whatever the header. -/
def cellEnding (measure : String) : List Char := (cellKey "" measure).toList

/-- No row key is the key of a cell under some header, and no two measures have cells with the same
key under some two headers. -/
structure KeysApart (rowKeys measureKeys : List String) : Prop where
  rows : ∀ key ∈ rowKeys, ∀ m ∈ measureKeys, ¬cellEnding m <:+ key.toList
  cells : ∀ m ∈ measureKeys, ∀ other ∈ measureKeys, cellEnding m <:+ cellEnding other → m = other

instance (rowKeys measureKeys : List String) : Decidable (KeysApart rowKeys measureKeys) :=
  decidable_of_iff
    ((∀ key ∈ rowKeys, ∀ m ∈ measureKeys, ¬cellEnding m <:+ key.toList) ∧
      ∀ m ∈ measureKeys, ∀ other ∈ measureKeys, cellEnding m <:+ cellEnding other → m = other)
    ⟨fun h => ⟨h.1, h.2⟩, fun h => ⟨h.rows, h.cells⟩⟩

theorem toList_cellKey (header measure : String) :
    (cellKey header measure).toList = header.toList ++ cellEnding measure := by
  simp [cellKey, cellEnding]

/-- The key of a cell ends with what belongs to its measure. -/
theorem cellEnding_suffix (header measure : String) :
    cellEnding measure <:+ (cellKey header measure).toList :=
  ⟨header.toList, (toList_cellKey header measure).symm⟩

/-- Whatever ends as the keys of a measure's cells do is the key of one of them. -/
theorem exists_cellKey {measure key : String} (h : cellEnding measure <:+ key.toList) :
    ∃ header, cellKey header measure = key := by
  obtain ⟨front, hFront⟩ := h
  refine ⟨String.ofList front, String.toList_injective ?_⟩
  rw [toList_cellKey, String.toList_ofList, hFront]

theorem cellEnding_injective : Function.Injective cellEnding := by
  intro m other hEq
  have hList : " - ".toList ++ m.toList = " - ".toList ++ other.toList := by
    simpa [cellEnding, cellKey] using hEq
  exact String.toList_injective (List.append_cancel_left hList)

/-- Under one header, the keys tell the measures apart. -/
theorem cellKey_injective (header : String) : Function.Injective (cellKey header) := by
  intro m other hEq
  have hList := congrArg String.toList hEq
  rw [toList_cellKey, toList_cellKey] at hList
  exact cellEnding_injective (List.append_cancel_left hList)

/-- For one measure, the keys tell the headers apart. -/
theorem cellKey_left_injective (measure : String) :
    Function.Injective fun header => cellKey header measure := by
  intro header other hEq
  have hList := congrArg String.toList hEq
  rw [toList_cellKey, toList_cellKey] at hList
  exact String.toList_injective (List.append_cancel_right hList)

/-- Of two endings of one key, the shorter one ends the longer one. -/
theorem KeysApart.eq_of_cellKey_eq {rowKeys measureKeys : List String}
    (h : KeysApart rowKeys measureKeys) {m other : String} (hMeasure : m ∈ measureKeys)
    (hOther : other ∈ measureKeys) {header header' : String}
    (hEq : cellKey header m = cellKey header' other) : header = header' := by
  have hEnds : cellEnding other <:+ (cellKey header m).toList :=
    hEq ▸ cellEnding_suffix header' other
  have hSame : m = other := by
    rcases List.suffix_or_suffix_of_suffix (cellEnding_suffix header m) hEnds with hEnd | hEnd
    · exact h.cells m hMeasure other hOther hEnd
    · exact (h.cells other hOther m hMeasure hEnd).symm
  rw [hSame] at hEq
  exact cellKey_left_injective other hEq

namespace PivotLayout

/-- The keys of an output row, in the order in which values are put under them. -/
def outputKeys (layout : PivotLayout) (headers : List String) : List String :=
  layout.rowKeys ++ headers.flatMap fun header => layout.measureKeys.map (cellKey header)

variable {layout : PivotLayout} {rows : List Row} {headers : List String}

/-- Values are put into an output row under its output keys, in their order. -/
theorem map_fst_pairs (id : List String) : (layout.pairs rows id).map Prod.fst =
    layout.outputKeys (pivot rows layout).headers := by
  have hHeaders : (layout.columns rows).map Prod.fst = (pivot rows layout).headers :=
    List.map_fst_zip (Nat.le_of_eq length_slots)
  have hProduct : layout.columns rows ×ˢ layout.measureKeys =
      (layout.columns rows).flatMap fun column =>
    layout.measureKeys.map (Prod.mk column) := rfl
  calc (layout.pairs rows id).map Prod.fst
    _ = layout.rowKeys ++ (layout.columns rows).flatMap fun column =>
          layout.measureKeys.map (cellKey column.1) := by
        rw [pairs, hProduct, List.map_append, List.map_map, List.map_map, List.map_flatMap]
        simp [Function.comp_def]
    _ = layout.outputKeys (pivot rows layout).headers := by
        rw [outputKeys, ← hHeaders, List.flatMap_map]

/-- A row has each output key once. -/
theorem map_fst_of_mem_rows {row : Row} (h : row ∈ (pivot rows layout).rows) :
    row.map Prod.fst = Keyed.distinct (layout.outputKeys (pivot rows layout).headers) := by
  rw [rows_pivot] at h
  obtain ⟨id, -, rfl⟩ := List.mem_map.mp h
  rw [Keyed.map_fst_ofPairs, map_fst_pairs]

/-- Keys that are apart stay apart under all headers. -/
theorem nodup_outputKeys (h : KeysApart layout.rowKeys layout.measureKeys)
    (hRows : layout.rowKeys.Nodup) (hMeasures : layout.measureKeys.Nodup)
    (hHeaders : headers.Nodup) : (layout.outputKeys headers).Nodup := by
  refine List.nodup_append'.mpr ⟨hRows, List.nodup_flatMap.mpr ⟨fun header _ => ?_, ?_⟩, ?_⟩
  · exact hMeasures.map (cellKey_injective header)
  · refine hHeaders.imp fun {header other} hNe => ?_
    intro key hFirst hSecond
    obtain ⟨m, hM, rfl⟩ := List.mem_map.mp hFirst
    obtain ⟨m', hM', hEq⟩ := List.mem_map.mp hSecond
    exact hNe (h.eq_of_cellKey_eq hM' hM hEq).symm
  · intro key hRow hCell
    obtain ⟨header, -, hCell⟩ := List.mem_flatMap.mp hCell
    obtain ⟨m, hM, rfl⟩ := List.mem_map.mp hCell
    exact h.rows _ hRow m hM (cellEnding_suffix header m)

/-- Keys that are different under any headers are apart. Two headers are enough: an empty one and
one that makes up the difference between the endings of two keys. -/
theorem keysApart_of_nodup
    (h : ∀ headers : List String, headers.Nodup → headers ≠ [] →
      (layout.outputKeys headers).Nodup) :
    KeysApart layout.rowKeys layout.measureKeys := by
  constructor
  case rows =>
    intro key hRow m hM hEnd
    obtain ⟨header, rfl⟩ := exists_cellKey hEnd
    have hNodup := h [header] (List.nodup_singleton header) (List.cons_ne_nil header [])
    apply List.disjoint_of_nodup_append hNodup hRow
    rw [List.flatMap_singleton]
    exact List.mem_map_of_mem hM
  case cells =>
    intro m hM other hOther hEnd
    obtain ⟨header, hKey⟩ := exists_cellKey hEnd
    by_cases hHeader : header = ""
    · exact cellKey_injective "" (hHeader ▸ hKey)
    · have hHeaders : ["", header].Nodup := by simpa using Ne.symm hHeader
      have hCells := (List.nodup_append'.mp (h _ hHeaders (List.cons_ne_nil "" [header]))).2.1
      have hApart := List.rel_of_pairwise_cons (List.nodup_flatMap.mp hCells).2
        (List.mem_singleton_self header)
      exact absurd (hKey ▸ List.mem_map_of_mem hM) (hApart (List.mem_map_of_mem hOther))

end PivotLayout

/-- Rows with given keys and with given texts under one of them. Nothing is written under the
others. -/
def rowsShowing (keys : List String) (last : String) (texts : List String) : List Row :=
  texts.map fun text => keys.map fun key => (key, .text (if key = last then text else ""))

section Showing

variable {keys texts front : List String} {last : String} {layout : PivotLayout}

theorem map_fst_of_mem_rowsShowing {row : Row} (h : row ∈ rowsShowing keys last texts) :
    row.map Prod.fst = keys := by
  obtain ⟨text, -, rfl⟩ := List.mem_map.mp h
  rw [List.map_map]
  exact List.map_id' keys

/-- An axis keeps the texts that are shown on it, if the cap allows for all of them. -/
theorem kept_rowsShowing (hCap : layout.cap = texts.length) (hTexts : texts.Nodup)
    (hSome : texts ≠ []) {key : String} (h : key ∈ keys) :
    layout.kept (rowsShowing keys last texts) key = if key = last then texts else [""] := by
  have hShown : (rowsShowing keys last texts).map (fun row => axisText (row.lookup key)) =
      texts.map fun text => if key = last then text else "" := by
    rw [rowsShowing, List.map_map]
    apply List.map_congr_left
    intro text _
    rw [Function.comp_apply,
      Keyed.lookup_map_pair (fun key => Json.text (if key = last then text else "")) h]
    rfl
  rw [PivotLayout.kept, hShown, hCap]
  split
  next =>
    rw [List.map_id', ← Keyed.distinct_eq_eraseDups, Keyed.distinct_of_nodup hTexts]
    exact List.take_of_length_le (Nat.le_max_left _ _)
  next =>
    obtain ⟨text, rest, rfl⟩ := List.exists_cons_of_ne_nil hSome
    simp [List.eraseDups_cons]

/-- Different texts on the last column axis become the headers. -/
theorem headers_rowsShowing (hCap : layout.cap = texts.length)
    (hColumns : layout.columnKeys = front ++ [last]) (hLast : last ∉ front)
    (hKeys : layout.columnKeys ⊆ keys) (hTexts : texts.Nodup) (hSome : texts ≠ []) :
    (pivot (rowsShowing keys last texts) layout).headers = texts := by
  have hFront :
      front.map (layout.kept (rowsShowing keys last texts)) = front.map fun _ => [""] := by
    apply List.map_congr_left
    intro key hKey
    have hOther : key ≠ last := fun hEq => hLast (hEq ▸ hKey)
    rw [kept_rowsShowing hCap hTexts hSome (hKeys (by simp [hColumns, hKey])), if_neg hOther]
  have hAxes : layout.axes (rowsShowing keys last texts) =
      front.map (fun _ => [""]) ++ [texts] := by
    rw [PivotLayout.axes, hColumns, List.map_append, List.map_singleton, hFront,
      kept_rowsShowing hCap hTexts hSome (hKeys (by simp [hColumns])), if_pos rfl]
  have hFits : ¬(pivot (rowsShowing keys last texts) layout).overflowed :=
    not_overflowed_of_length_le (by rw [rowsShowing, List.length_map, hCap])
  calc (pivot (rowsShowing keys last texts) layout).headers
    _ = distinctHeaders [] (combinations (layout.axes (rowsShowing keys last texts))) := by
        rw [headers_pivot, if_neg hFits, List.append_nil]
    _ = distinctHeaders [] texts := by rw [hAxes, combinations_append_singleton (by simp)]
    _ = texts := distinctHeaders_of_nodup hTexts fun _ _ => List.not_mem_nil

end Showing

namespace Plan

/-- The report on the rows that a plan's statement yielded, pivoted in exact arithmetic. -/
def report (plan : Plan) (s : Statement) (rows : List Row) (elapsedMillis cap : Nat) : Report :=
  if plan.isPivot && !rows.isEmpty then
    plan.pivotReport s rows elapsedMillis cap (pivot rows (plan.layout cap))
  else plan.flatReport s rows elapsedMillis

variable {plan : Plan}

/-- If there is room for the pivot, that is the report. -/
theorem report?_eq_some {rows : List Row} {cap : Nat} (h : (plan.layout cap).Fits rows)
    (s : Statement) (elapsedMillis : Nat) :
    plan.report? s rows elapsedMillis cap = some (plan.report s rows elapsedMillis cap) := by
  rw [report?, report, pivot?_eq_some h]
  split <;> rfl

/-- The columns of a pivoted report are its output keys. -/
theorem map_key_pivotColumns (plan : Plan) (headers : List String) (cap : Nat) :
    (plan.pivotColumns headers).map ReportColumn.key = (plan.layout cap).outputKeys headers := by
  simp [pivotColumns, PivotLayout.outputKeys, layout, List.map_flatMap, Function.comp_def]

/-- A pivoted report is rectangular as soon as its columns have different keys. -/
theorem isRectangular_report (hPivot : plan.columnDimensions ≠ []) {rows : List Row}
    (hRows : rows ≠ []) (s : Statement) (elapsedMillis cap : Nat) :
    (plan.report s rows elapsedMillis cap).IsRectangular ↔
      ((plan.layout cap).outputKeys (pivot rows (plan.layout cap)).headers).Nodup := by
  have hPivoted : (plan.isPivot && !rows.isEmpty) = true := by simp [isPivot, hPivot, hRows]
  have hColumns := plan.map_key_pivotColumns (pivot rows (plan.layout cap)).headers cap
  simp only [report, pivotReport, hPivoted, if_true]
  constructor
  · intro h
    rw [← hColumns]
    exact h.distinct
  · intro hNodup
    refine ⟨hColumns ▸ hNodup, ?_⟩
    intro row hMem
    rw [hColumns, PivotLayout.map_fst_of_mem_rows (List.mem_of_mem_take hMem),
      Keyed.distinct_of_nodup hNodup]

/-- Any different texts can become the headers of a pivoted plan. -/
theorem exists_headers (hKeys : plan.keys.Nodup) (hPivot : plan.columnDimensions ≠ [])
    {texts : List String} (hTexts : texts.Nodup) (hSome : texts ≠ []) :
    ∃ rows, rows ≠ [] ∧ (∀ row ∈ rows, row.map Prod.fst = plan.keys) ∧
      (pivot rows (plan.layout texts.length)).headers = texts := by
  obtain ⟨front, last, hColumns⟩ : ∃ front last, plan.columnDimensions = front ++ [last] :=
    ⟨_, _, (List.dropLast_append_getLast hPivot).symm⟩
  have hColumnKeys : (plan.layout texts.length).columnKeys =
      front.map PlannedAxis.key ++ [last.key] := by simp [layout, hColumns]
  have hLast : last.key ∉ front.map PlannedAxis.key := by
    have hAxes := (List.nodup_append'.mp hKeys).1
    rw [Plan.axes, hColumns, ← List.append_assoc, List.map_append, List.map_append] at hAxes
    intro hMem
    exact List.disjoint_of_nodup_append hAxes (List.mem_append_right _ hMem)
      (List.mem_singleton_self last.key)
  have hReported : (plan.layout texts.length).columnKeys ⊆ plan.keys := by
    intro key hMem
    rw [keys, axes, List.map_append]
    exact List.mem_append_left _ (List.mem_append_right _ hMem)
  exact ⟨rowsShowing plan.keys last.key texts, by simpa [rowsShowing] using hSome,
    fun _ => map_fst_of_mem_rowsShowing,
    headers_rowsShowing rfl hColumnKeys hLast hReported hTexts hSome⟩

end Plan

/-- All reports on a specification are rectangular, whatever texts the store yields, just if its
keys are apart. They are the reports that are made if there is room for the pivots. -/
theorem rectangular_iff_keysApart {spec : Spec} {c : Catalog} {maxLimit : UInt64} {plan : Plan}
    (hSpec : spec.resolve c maxLimit = .ok plan) (hPivot : spec.columnDimensions ≠ [])
    (s : Statement) (elapsedMillis : Nat) :
    ((∀ rows cap, rows ≠ [] → (∀ row ∈ rows, row.map Prod.fst = plan.keys) →
      (plan.report s rows elapsedMillis cap).IsRectangular) ↔
        KeysApart (spec.dimensions.map Dimension.key) (spec.measures.map Measure.key)) ∧
    ∀ rows cap, (plan.layout cap).Fits rows →
      plan.report? s rows elapsedMillis cap = some (plan.report s rows elapsedMillis cap) := by
  refine ⟨?_, fun rows cap hFits => Plan.report?_eq_some hFits s elapsedMillis⟩
  have hPlan := Spec.resolve_ok hSpec
  have hColumns : plan.columnDimensions ≠ [] := by
    intro hNone
    have hLength := hPlan.columnDimensions.length_eq
    rw [hNone] at hLength
    exact hPivot (List.length_eq_zero_iff.mp hLength)
  rw [← hPlan.dimensionKeys, ← hPlan.measureKeys]
  constructor
  · intro h
    apply (plan.layout 0).keysApart_of_nodup
    intro texts hTexts hSome
    obtain ⟨rows, hRows, hKeyed, hHeaders⟩ :=
      Plan.exists_headers hPlan.nodup_keys hColumns hTexts hSome
    have hReport := h rows texts.length hRows hKeyed
    rw [Plan.isRectangular_report hColumns hRows, hHeaders] at hReport
    exact hReport
  · intro hApart rows cap hRows _
    obtain ⟨hAxes, hMeasures, -⟩ := List.nodup_append'.mp hPlan.nodup_keys
    rw [Plan.axes, List.map_append] at hAxes
    rw [Plan.isRectangular_report hColumns hRows]
    exact PivotLayout.nodup_outputKeys hApart hAxes.of_append_left hMeasures nodup_headers_pivot

/-- Revenue and records of each category, spread over regions. -/
def Spec.revenueByRegion : Spec where
  dimensions := [{ column := { entity := "inventory", field := "category" }, key := "category" }]
  columnDimensions := [{ column := { entity := "inventory", field := "region" }, key := "region" }]
  measures := [
    { column := { entity := "inventory", field := "revenue" },
      aggregation := .sum, key := "revenue" },
    { column := { entity := "inventory", field := "sku" },
      aggregation := .count, key := "records" }]

/-- Revenue and records of each category, spread over regions, always form a rectangle. -/
theorem rectangular_revenueByRegion : ∃ c plan s, Catalog.load Registry.builtin.source = .ok c ∧
    Spec.revenueByRegion.resolve c 10 = .ok plan ∧ plan.compile {} .sqlite 100 = .ok s ∧
    Spec.revenueByRegion.columnDimensions ≠ [] ∧
    ∀ rows cap, rows ≠ [] → (∀ row ∈ rows, row.map Prod.fst = plan.keys) →
      (plan.report s rows 0 cap).IsRectangular := by
  obtain ⟨c, plan, s, hLoad, hSpec, hCompile⟩ : ∃ c plan s,
      Catalog.load Registry.builtin.source = .ok c ∧ Spec.revenueByRegion.resolve c 10 = .ok plan ∧
        plan.compile {} .sqlite 100 = .ok s := ⟨_, _, _, rfl, rfl, rfl⟩
  have hPivot : Spec.revenueByRegion.columnDimensions ≠ [] := List.cons_ne_nil _ _
  have hRectangular : ∀ rows cap, rows ≠ [] → (∀ row ∈ rows, row.map Prod.fst = plan.keys) →
      (plan.report s rows 0 cap).IsRectangular := by
    apply (rectangular_iff_keysApart hSpec hPivot s 0).1.mpr
    decide
  exact ⟨c, plan, s, hLoad, hSpec, hCompile, hPivot, hRectangular⟩

/-- Two totals, the key of one of which ends as the cells of the other do. -/
def Spec.itemTotals : Spec where
  dimensions := [{ column := { entity := "inventory", field := "category" }, key := "category" }]
  columnDimensions := [{ column := { entity := "inventory", field := "region" }, key := "region" }]
  measures := [
    { column := { entity := "inventory", field := "revenue" },
      aggregation := .sum, key := "total" },
    { column := { entity := "inventory", field := "quantity" }, aggregation := .sum
      key := "items - total" }]

/-- A region may be called as another one with the rest of a measure's key behind it. -/
theorem overwritten_itemTotals : ∃ c plan s rows, Catalog.load Registry.builtin.source = .ok c ∧
    Spec.itemTotals.resolve c 10 = .ok plan ∧ plan.compile {} .sqlite 100 = .ok s ∧
    Spec.itemTotals.columnDimensions ≠ [] ∧ rows ≠ [] ∧
    (∀ row ∈ rows, row.map Prod.fst = plan.keys) ∧
    plan.report? s rows 0 25 = some (plan.report s rows 0 25) ∧
    ¬(plan.report s rows 0 25).IsRectangular := by
  let rows : List Row := [
    [("category", .text "T"), ("region", .text "NORTH"), ("total", .int 1),
      ("items - total", .int 2)],
    [("category", .text "T"), ("region", .text "NORTH - items"), ("total", .int 4),
      ("items - total", .int 8)]]
  obtain ⟨c, plan, s, hLoad, hSpec, hCompile, hKeys, hReport, hNot⟩ : ∃ c plan s,
      Catalog.load Registry.builtin.source = .ok c ∧ Spec.itemTotals.resolve c 10 = .ok plan ∧
      plan.compile {} .sqlite 100 = .ok s ∧ (∀ row ∈ rows, row.map Prod.fst = plan.keys) ∧
      plan.report? s rows 0 25 = some (plan.report s rows 0 25) ∧
      ¬(plan.report s rows 0 25).IsRectangular := by
    refine ⟨_, _, _, rfl, rfl, rfl, by decide, ?_, ?_⟩
    · apply Plan.report?_eq_some
      constructor
      case headers => decide +kernel
      case cells =>
        intro _
        decide +kernel
    · rw [Plan.isRectangular_report (List.cons_ne_nil _ _) (List.cons_ne_nil _ _)]
      decide +kernel
  exact ⟨c, plan, s, rows, hLoad, hSpec, hCompile, List.cons_ne_nil _ _, List.cons_ne_nil _ _,
    hKeys, hReport, hNot⟩

end Crosstab
