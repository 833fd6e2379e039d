import Crosstab.Proofs.Except
import Crosstab.Proofs.Table.Tabulation

/-!
Cells that no sum should count. Measures may hold what is no number at all, and the headers, groups
and sums of a pivot are the same with null in its place. Texts that name an infinity or the
undefined value, or write a number beyond all doubles, are an exception: they are read as doubles,
and no sum over them is finite.
-/

namespace Crosstab

open Crosstab.Pivot Crosstab.Text

section Finite

open Float.Model (UnpackedFloat pack)

theorem not_isFinite_addUnpacked {x y : UnpackedFloat} (h : ¬(x.isFinite ∧ y.isFinite))
    (format : Float.Model.Format) : ¬(x.add format y).isFinite := by
  cases x with
  | notANumber => exact Bool.false_ne_true
  | infinity sign =>
      cases y with
      | infinity other => cases sign <;> cases other <;> exact Bool.false_ne_true
      | notANumber | zero | finite => exact Bool.false_ne_true
  | zero | finite =>
      cases y with
      | notANumber | infinity => exact Bool.false_ne_true
      | zero | finite => exact absurd ⟨rfl, rfl⟩ h

theorem not_isFinite_pack {x : UnpackedFloat} (h : ¬x.isFinite) : ¬(pack x).isFinite := by
  cases x with
  | notANumber => decide
  | infinity sign => cases sign <;> decide
  | zero sign => exact absurd rfl h
  | finite sign mantissa exponent hPos => exact absurd rfl h

/-- No sum of two doubles is finite unless both of them are. -/
theorem not_isFinite_add {x y : Float} (h : ¬(x.isFinite ∧ y.isFinite)) : ¬(x + y).isFinite :=
  not_isFinite_pack (not_isFinite_addUnpacked h _)

end Finite

/-- A cell with a number: one as such, or a text that denotes a finite one. -/
def Json.Numeric : Json → Prop
  | .number _ => True
  | .text s => ∃ x, Decimal.readFloat? (trim s) = some x ∧ x.isFinite
  | _ => False

/-- A text that denotes an infinity or the undefined value. -/
def Json.Boundless (value : Json) : Prop :=
  ∃ s x, value = .text s ∧ Decimal.readFloat? (trim s) = some x ∧ ¬x.isFinite

/-- A row with null in place of some of its measures that hold no number. -/
def Row.ClearedTo (measures : List String) (row cleared : Row) : Prop :=
  ∀ key, cleared.lookup key = row.lookup key ∨
    key ∈ measures ∧ cleared.lookup key = some .null ∧ ∃ value ∈ row.lookup key, ¬value.Numeric

/-- The sum of a measure over rows, from the left and beginning with zero. -/
def sumOver (measure : String) (rows : List Row) : Float :=
  rows.foldl (fun sum row => sum + Json.addend (row.lookup measure)) 0

namespace PivotLayout

variable (layout : PivotLayout) (rows : List Row)

/-- No measure decides where a row counts. -/
def Apart : Prop :=
  ∀ measure ∈ layout.measureKeys, measure ∉ layout.rowKeys ∧ measure ∉ layout.columnKeys

/-- A cell that is seen in the output: under its key no other one is put later. -/
def Seen (cell : (String × Option (List String)) × String) : Prop :=
  ∃ before after, layout.columns rows ×ˢ layout.measureKeys = before ++ cell :: after ∧
    ∀ later ∈ after, cellKey later.1.1 later.2 ≠ cellKey cell.1.1 cell.2

/-- A cell over a row that holds a text without bounds under its measure. -/
def Swamped (id : List String) (cell : (String × Option (List String)) × String) : Prop :=
  ∃ row ∈ layout.members rows id cell.1.2, ∃ value ∈ row.lookup cell.2, value.Boundless

end PivotLayout

/-- What a double denotes is added, and nothing else. -/
theorem Json.addend_of_not_numeric {value : Json} (h : ¬value.Numeric)
    (hBounded : ¬value.Boundless) : addend (some value) = 0 := by
  cases value with
  | number n => exact absurd trivial h
  | text s =>
      cases hRead : Decimal.readFloat? (trim s) with
      | none => simp [addend, hRead]
      | some x =>
          by_cases hFinite : x.isFinite
          · exact absurd ⟨x, hRead, hFinite⟩ h
          · exact absurd ⟨s, x, rfl, hRead, hFinite⟩ hBounded
  | _ => rfl

/-- A text without bounds adds an infinity or the undefined value. -/
theorem Json.Boundless.addend {value : Json} (h : value.Boundless) :
    ¬(Json.addend (some value)).isFinite := by
  obtain ⟨s, x, rfl, hRead, hInfinite⟩ := h
  simpa [Json.addend, hRead] using hInfinite

/-- Once a sum is not finite, it stays so. -/
theorem not_isFinite_foldl {f : Row → Float} {rows : List Row} {start : Float}
    (h : ¬start.isFinite ∨ ∃ row ∈ rows, ¬(f row).isFinite) :
    ¬(rows.foldl (fun sum row => sum + f row) start).isFinite := by
  induction rows generalizing start with
  | nil => simpa using h
  | cons row rows ih =>
      apply ih
      rcases h with hStart | ⟨other, hMem, hOther⟩
      · exact .inl (not_isFinite_add fun hBoth => hStart hBoth.1)
      · rcases List.mem_cons.mp hMem with rfl | hRest
        · exact .inl (not_isFinite_add fun hBoth => hOther hBoth.2)
        · exact .inr ⟨other, hRest, hOther⟩

theorem cellOver_eq (measure : String) (rows : List Row) : cellOver measure rows =
    if rows ≠ [] ∧ (sumOver measure rows).isFinite then .number (.float (sumOver measure rows))
    else .int 0 :=
  rfl

/-- A sum that is not finite shows as a plain zero. -/
theorem cellOver_of_not_isFinite {measure : String} {rows : List Row}
    (h : ¬(sumOver measure rows).isFinite) : cellOver measure rows = .int 0 :=
  if_neg fun hBoth => h hBoth.2

/-- A finite sum shows as itself. -/
theorem cellOver_of_isFinite {measure : String} {rows : List Row} (hRows : rows ≠ [])
    (h : (sumOver measure rows).isFinite) :
    cellOver measure rows = .number (.float (sumOver measure rows)) :=
  if_pos ⟨hRows, h⟩

/-- A sum is taken from the left, over what each row adds. -/
theorem sumOver_eq_foldl (measure : String) (rows : List Row) :
    sumOver measure rows =
      (rows.map fun row => Json.addend (row.lookup measure)).foldl (· + ·) 0 := by
  rw [sumOver, List.foldl_map]

namespace Row

variable {measures : List String} {row cleared : Row}

/-- Cells that are no measures stay. -/
theorem ClearedTo.lookup_eq (h : row.ClearedTo measures cleared) {key : String}
    (hKey : key ∉ measures) : cleared.lookup key = row.lookup key :=
  (h key).resolve_right fun hMeasure => hKey hMeasure.1

/-- Texts under keys that are no measures stay. -/
theorem ClearedTo.axisTexts_eq (h : row.ClearedTo measures cleared) {keys : List String}
    (hApart : ∀ key ∈ keys, key ∉ measures) : axisTexts keys cleared = axisTexts keys row :=
  List.map_congr_left fun key hKey => by rw [h.lookup_eq (hApart key hKey)]

/-- As long as no text without bounds is taken out, a row adds to a sum what it did before. -/
theorem ClearedTo.addend_eq (h : row.ClearedTo measures cleared) {measure : String}
    (hBounded : ∀ value ∈ row.lookup measure, ¬value.Boundless) :
    Json.addend (cleared.lookup measure) = Json.addend (row.lookup measure) := by
  rcases h measure with hSame | ⟨-, hNull, value, hValue, hNot⟩
  · rw [hSame]
  · rw [hNull, hValue, Json.addend_of_not_numeric hNot (hBounded value hValue)]
    rfl

end Row

namespace PivotLayout

variable {layout : PivotLayout} {rows cleared : List Row} {id : List String}
  {cell : (String × Option (List String)) × String}

/-- Whatever else a cell sums over, one text without bounds makes it zero. -/
theorem Swamped.cellOver_eq_zero (h : layout.Swamped rows id cell) :
    cellOver cell.2 (layout.members rows id cell.1.2) = .int 0 := by
  obtain ⟨row, hRow, value, hValue, hBoundless⟩ := h
  have hAddend : ¬(Json.addend (row.lookup cell.2)).isFinite := by
    rw [hValue]
    exact hBoundless.addend
  exact cellOver_of_not_isFinite (not_isFinite_foldl (.inr ⟨row, hRow, hAddend⟩))

/-- What is seen of a group in its output row. -/
theorem Seen.lookup (hId : id ∈ rows.map (axisTexts layout.rowKeys)) (h : layout.Seen rows cell) :
    (Keyed.ofPairs (layout.pairs rows id)).lookup (cellKey cell.1.1 cell.2) =
      some (cellOver cell.2 (layout.members rows id cell.1.2)) := by
  obtain ⟨before, after, hSplit, hLast⟩ := h
  exact (summarizes_ofPairs hId).cells before cell.1.1 cell.1.2 cell.2 after hSplit hLast

theorem Seen.measure_mem (h : layout.Seen rows cell) : cell.2 ∈ layout.measureKeys := by
  obtain ⟨before, after, hSplit, -⟩ := h
  have hMem : cell ∈ layout.columns rows ×ˢ layout.measureKeys := by simp [hSplit]
  exact (List.pair_mem_product.mp hMem).2

section Cleared

variable (hApart : layout.Apart)
  (hCleared : List.Forall₂ (Row.ClearedTo layout.measureKeys) rows cleared)

include hApart

theorem Apart.rowTexts {row new : Row} (h : row.ClearedTo layout.measureKeys new) :
    axisTexts layout.rowKeys new = axisTexts layout.rowKeys row :=
  h.axisTexts_eq fun key hKey hMeasure => (hApart key hMeasure).1 hKey

theorem Apart.columnTexts {row new : Row} (h : row.ClearedTo layout.measureKeys new) :
    axisTexts layout.columnKeys new = axisTexts layout.columnKeys row :=
  h.axisTexts_eq fun key hKey hMeasure => (hApart key hMeasure).2 hKey

include hCleared

/-- Axes keep the same texts. -/
theorem kept_cleared {key : String} (hKey : key ∈ layout.columnKeys) :
    layout.kept cleared key = layout.kept rows key := by
  have hShown : cleared.map (fun row => axisText (row.lookup key)) =
      rows.map fun row => axisText (row.lookup key) :=
    map_eq_of_forall₂ hCleared fun row new h => by
      rw [h.lookup_eq fun hMeasure => (hApart key hMeasure).2 hKey]
  rw [kept, kept, hShown]

theorem axes_cleared : layout.axes cleared = layout.axes rows :=
  List.map_congr_left fun _ hKey => kept_cleared hApart hCleared hKey

/-- Each row counts in the same place. -/
theorem slot_cleared {row new : Row} (h : row.ClearedTo layout.measureKeys new) :
    layout.slot cleared new = layout.slot rows row := by
  have hKept : (∀ key ∈ layout.columnKeys, axisText (new.lookup key) ∈ layout.kept cleared key) ↔
      ∀ key ∈ layout.columnKeys, axisText (row.lookup key) ∈ layout.kept rows key := by
    apply forall₂_congr
    intro key hKey
    rw [kept_cleared hApart hCleared hKey,
      h.lookup_eq fun hMeasure => (hApart key hMeasure).2 hKey]
  simp only [slot, hKept, hApart.columnTexts h]

theorem exists_slot_none_cleared : (∃ row ∈ cleared, layout.slot cleared row = none) ↔
    ∃ row ∈ rows, layout.slot rows row = none := by
  have hSlots : cleared.map (layout.slot cleared) = rows.map (layout.slot rows) :=
    map_eq_of_forall₂ hCleared fun _ _ h => slot_cleared hApart hCleared h
  rw [← List.mem_map, hSlots, List.mem_map]

theorem slots_cleared : layout.slots cleared = layout.slots rows := by
  simp only [slots, axes_cleared hApart hCleared, exists_slot_none_cleared hApart hCleared]

/-- The same rows have no combination. -/
theorem overflowed_cleared :
    (pivot cleared layout).overflowed = (pivot rows layout).overflowed := by
  rw [Bool.eq_iff_iff, overflowed_pivot, overflowed_pivot, exists_slot_none_cleared hApart hCleared]

/-- The headers are the same. -/
theorem headers_cleared : (pivot cleared layout).headers = (pivot rows layout).headers := by
  rw [headers_pivot, headers_pivot, overflowed_cleared hApart hCleared,
    axes_cleared hApart hCleared]

theorem columns_cleared : layout.columns cleared = layout.columns rows := by
  rw [columns, columns, headers_cleared hApart hCleared, slots_cleared hApart hCleared]

/-- The same rows count together. -/
theorem members_cleared (id : List String) (place : Option (List String)) :
    List.Forall₂ (Row.ClearedTo layout.measureKeys) (layout.members rows id place)
      (layout.members cleared id place) := by
  refine List.rel_filter (fun row new h => ?_) hCleared
  simp [hApart.rowTexts h, slot_cleared hApart hCleared h]

/-- The groups are the same, in the same order. -/
theorem groups_cleared :
    cleared.map (axisTexts layout.rowKeys) = rows.map (axisTexts layout.rowKeys) :=
  map_eq_of_forall₂ hCleared fun _ _ h => hApart.rowTexts h

/-- What the first row of a group has under a row key stays. -/
theorem first_cleared (id : List String) {key : String} (hKey : key ∈ layout.rowKeys) :
    ((cleared.find? fun row => axisTexts layout.rowKeys row = id).getD []).lookup key =
      ((rows.find? fun row => axisTexts layout.rowKeys row = id).getD []).lookup key := by
  have hFound : (cleared.find? fun row => axisTexts layout.rowKeys row = id).map (List.lookup key) =
      (rows.find? fun row => axisTexts layout.rowKeys row = id).map (List.lookup key) :=
    map_find?_of_forall₂ hCleared (fun _ _ h => by rw [hApart.rowTexts h]) fun _ _ h =>
      h.lookup_eq fun hMeasure => (hApart key hMeasure).1 hKey
  cases hNew : cleared.find? fun row => axisTexts layout.rowKeys row = id <;>
    cases hOld : rows.find? fun row => axisTexts layout.rowKeys row = id <;> simp_all

/-- Cells stay the same that sum over no text without bounds. -/
theorem cellOver_cleared (h : ¬layout.Swamped rows id cell) :
    cellOver cell.2 (layout.members cleared id cell.1.2) =
      cellOver cell.2 (layout.members rows id cell.1.2) := by
  have hMembers := members_cleared hApart hCleared id cell.1.2
  have hBounded : ∀ row ∈ layout.members rows id cell.1.2, ∀ value ∈ row.lookup cell.2,
      ¬value.Boundless :=
    fun row hRow value hValue hBoundless => h ⟨row, hRow, value, hValue, hBoundless⟩
  have hAddends : (layout.members cleared id cell.1.2).map
        (fun row => Json.addend (row.lookup cell.2)) =
      (layout.members rows id cell.1.2).map fun row => Json.addend (row.lookup cell.2) :=
    map_eq_of_forall₂ ((List.forall₂_and_left _ _).mpr ⟨hBounded, hMembers⟩) fun _ _ hBoth =>
      hBoth.2.addend_eq hBoth.1
  have hEmpty : layout.members cleared id cell.1.2 = [] ↔ layout.members rows id cell.1.2 = [] := by
    rw [← List.length_eq_zero_iff, ← List.length_eq_zero_iff, hMembers.length_eq]
  simp only [cellOver_eq, sumOver_eq_foldl, hAddends, ne_eq, hEmpty]

/-- A cell whose sum stays without bounds stays zero, and any other one with texts taken out of it
changes. -/
theorem cellOver_cleared_iff (h : layout.Swamped rows id cell) :
    cellOver cell.2 (layout.members cleared id cell.1.2) =
        cellOver cell.2 (layout.members rows id cell.1.2) ↔
      ¬(sumOver cell.2 (layout.members cleared id cell.1.2)).isFinite := by
  rw [h.cellOver_eq_zero]
  constructor
  · intro hZero hFinite
    have hRows : layout.members cleared id cell.1.2 ≠ [] := by
      obtain ⟨row, hRow, -⟩ := h
      rw [← List.length_pos_iff, (members_cleared hApart hCleared id cell.1.2).length_eq.symm]
      exact List.length_pos_of_mem hRow
    rw [cellOver_of_isFinite hRows hFinite] at hZero
    cases hZero
  · exact cellOver_of_not_isFinite

/-- The output row of a group is the same just if every cell of it is that is seen. -/
theorem outputRow_cleared_iff (hId : id ∈ rows.map (axisTexts layout.rowKeys)) :
    Keyed.ofPairs (layout.pairs cleared id) = Keyed.ofPairs (layout.pairs rows id) ↔
      ∀ cell, layout.Seen rows cell → layout.Swamped rows id cell →
        ¬(sumOver cell.2 (layout.members cleared id cell.1.2)).isFinite := by
  constructor
  · intro hSame cell hSeen hSwamped
    have hSeenStill : layout.Seen cleared cell := by
      rwa [Seen, columns_cleared hApart hCleared]
    have hIdStill : id ∈ cleared.map (axisTexts layout.rowKeys) := by
      rwa [groups_cleared hApart hCleared]
    have hCell := hSeenStill.lookup hIdStill
    rw [hSame, hSeen.lookup hId, Option.some.injEq] at hCell
    exact (cellOver_cleared_iff hApart hCleared hSwamped).mp hCell.symm
  · intro hCells
    have hValues : layout.rowKeys.map (fun key => (key,
          (((cleared.find? fun row => axisTexts layout.rowKeys row = id).getD []).lookup key).getD
            .null)) =
        layout.rowKeys.map fun key => (key,
          (((rows.find? fun row => axisTexts layout.rowKeys row = id).getD []).lookup key).getD
            .null) :=
      List.map_congr_left fun key hKey => by rw [first_cleared hApart hCleared id hKey]
    rw [pairs, pairs, hValues, columns_cleared hApart hCleared]
    -- The same keys are put in the same order, so what is overwritten later need not agree.
    apply Keyed.ofPairs_append_congr
    intro before cell after hSplit hLast
    by_cases hSwamped : layout.Swamped rows id cell
    · exact (cellOver_cleared_iff hApart hCleared hSwamped).mpr
        (hCells cell ⟨before, after, hSplit, hLast⟩ hSwamped)
    · exact cellOver_cleared hApart hCleared hSwamped

/-- Tables are the same just if their rows are. -/
theorem pivot_cleared_iff : pivot cleared layout = pivot rows layout ↔
    (pivot cleared layout).rows = (pivot rows layout).rows := by
  refine ⟨fun hSame => by rw [hSame], ?_⟩
  intro hRows
  have hHeaders := headers_cleared hApart hCleared
  have hOverflowed := overflowed_cleared hApart hCleared
  cases hTable : pivot cleared layout
  cases hOld : pivot rows layout
  simp_all

/-- There is as much room as before. -/
theorem fits_cleared (h : layout.Fits rows) : layout.Fits cleared := by
  constructor
  case headers =>
    rw [axes_cleared hApart hCleared]
    exact h.headers
  case cells =>
    intro hSome
    rw [axes_cleared hApart hCleared]
    refine h.cells fun hNil => hSome ?_
    rwa [hNil, List.forall₂_nil_left_iff] at hCleared

end Cleared

def byRegion : PivotLayout := ⟨[], ["region"], ["revenue"], 25⟩

/-- Two sales in the north, the second of them for two. -/
def northernSales (first : Json) : List Row :=
  [[("region", .text "NORTH"), ("revenue", first)],
    [("region", .text "NORTH"), ("revenue", .int 2)]]

theorem apart_byRegion : byRegion.Apart := by
  unfold Apart
  decide +kernel

theorem northernSales_cleared {first : Json} (h : ¬first.Numeric) :
    List.Forall₂ (Row.ClearedTo byRegion.measureKeys) (northernSales first)
      (northernSales .null) := by
  refine .cons (fun key => ?_) (.cons (fun key => .inl rfl) .nil)
  by_cases hKey : key = "revenue"
  · subst hKey
    exact .inr ⟨List.mem_cons_self, rfl, first, rfl, h⟩
  · have hOther : (key == "revenue") = false := beq_eq_false_iff_ne.mpr hKey
    exact .inl (by simp [List.lookup_cons, hOther])

end PivotLayout

/-- What is no number in the measures of a pivot, null may stand for, and the headers and what
overflows stay the same. So does the whole table just if no sum comes within bounds that did not
before: every cell that is seen is a plain zero, whatever else it sums over, if one of its rows has
a text that denotes an infinity or the undefined value. If there is room for the one table, these
are the tables that are made. -/
theorem pivot_eq_iff_of_cleared {layout : PivotLayout} {rows cleared : List Row}
    (hApart : layout.Apart)
    (hCleared : List.Forall₂ (Row.ClearedTo layout.measureKeys) rows cleared) :
    ((pivot cleared layout).headers = (pivot rows layout).headers ∧
      (pivot cleared layout).overflowed = (pivot rows layout).overflowed) ∧
    List.Forall₂ (fun id out => ∀ cell, layout.Seen rows cell → layout.Swamped rows id cell →
        out.lookup (cellKey cell.1.1 cell.2) = some (.int 0))
      (rows.map (axisTexts layout.rowKeys)).eraseDups (pivot rows layout).rows ∧
    (pivot cleared layout = pivot rows layout ↔
      ∀ id ∈ rows.map (axisTexts layout.rowKeys), ∀ cell, layout.Seen rows cell →
        layout.Swamped rows id cell →
          ¬(sumOver cell.2 (layout.members cleared id cell.1.2)).isFinite) ∧
    (layout.Fits rows → pivot? rows layout = some (pivot rows layout) ∧
      pivot? cleared layout = some (pivot cleared layout)) := by
  refine ⟨⟨PivotLayout.headers_cleared hApart hCleared,
    PivotLayout.overflowed_cleared hApart hCleared⟩, ?_, ?_, fun hFits => ⟨pivot?_eq_some hFits,
      pivot?_eq_some (PivotLayout.fits_cleared hApart hCleared hFits)⟩⟩
  · rw [PivotLayout.rows_pivot, List.forall₂_map_right_iff, List.forall₂_same]
    intro id hId cell hSeen hSwamped
    rw [hSeen.lookup (List.mem_eraseDups.mp hId), hSwamped.cellOver_eq_zero]
  · rw [PivotLayout.pivot_cleared_iff hApart hCleared, PivotLayout.rows_pivot,
      PivotLayout.rows_pivot, PivotLayout.groups_cleared hApart hCleared, List.map_inj_left]
    simp only [List.mem_eraseDups]
    exact forall₂_congr fun id hId => PivotLayout.outputRow_cleared_iff hApart hCleared hId

open PivotLayout in
/-- A sale whose revenue is not available is no sale. -/
theorem pivot_unavailableSale :
    byRegion.Apart ∧
    List.Forall₂ (Row.ClearedTo byRegion.measureKeys) (northernSales (.text "n/a"))
      (northernSales .null) ∧
    pivot (northernSales .null) byRegion = pivot (northernSales (.text "n/a")) byRegion := by
  have hRead : Decimal.readFloat? (trim "n/a") = none := rfl
  have hCleared : List.Forall₂ (Row.ClearedTo byRegion.measureKeys) (northernSales (.text "n/a"))
      (northernSales .null) :=
    northernSales_cleared (by simp [Json.Numeric, hRead])
  refine ⟨apart_byRegion, hCleared, (pivot_eq_iff_of_cleared apart_byRegion hCleared).2.2.1.mpr ?_⟩
  rintro id - cell hSeen ⟨row, hRow, value, hValue, s, x, rfl, hText, -⟩
  have hMeasure : cell.2 = "revenue" := by simpa [byRegion] using hSeen.measure_mem
  have hSale : row ∈ northernSales (.text "n/a") := List.mem_of_mem_filter hRow
  rw [hMeasure] at hValue
  simp only [northernSales, List.mem_cons, List.not_mem_nil, or_false] at hSale
  rcases hSale with rfl | rfl <;> cases hValue
  rw [hRead] at hText
  cases hText

open PivotLayout in
/-- One undefined revenue makes the revenue of its region zero. -/
theorem pivot_undefinedSale :
    byRegion.Apart ∧
    List.Forall₂ (Row.ClearedTo byRegion.measureKeys) (northernSales (.text "NaN"))
      (northernSales .null) ∧
    (pivot (northernSales (.text "NaN")) byRegion).rows = [[("NORTH - revenue", .int 0)]] ∧
    (pivot (northernSales .null) byRegion).rows = [[("NORTH - revenue", .number (.float 2))]] ∧
    pivot (northernSales .null) byRegion ≠ pivot (northernSales (.text "NaN")) byRegion ∧
    pivot? (northernSales (.text "NaN")) byRegion =
      some (pivot (northernSales (.text "NaN")) byRegion) ∧
    pivot? (northernSales .null) byRegion = some (pivot (northernSales .null) byRegion) := by
  have hRead : Decimal.readFloat? (trim "NaN") = some (0.0 / 0.0) := rfl
  have hUndefined : ¬(0.0 / 0.0 : Float).isFinite := by decide +kernel
  have hOld :
      (pivot (northernSales (.text "NaN")) byRegion).rows = [[("NORTH - revenue", .int 0)]] := rfl
  have hNew : (pivot (northernSales .null) byRegion).rows =
      [[("NORTH - revenue", .number (.float 2))]] := rfl
  have hFits : byRegion.Fits (northernSales (.text "NaN")) :=
    ⟨by decide +kernel, fun _ => by decide +kernel⟩
  have hFitsNull : byRegion.Fits (northernSales .null) :=
    ⟨by decide +kernel, fun _ => by decide +kernel⟩
  have hNotNumeric : ¬(Json.text "NaN").Numeric := by
    rintro ⟨x, hText, hFinite⟩
    rw [hRead] at hText
    cases hText
    exact hUndefined hFinite
  have hDiffer :
      pivot (northernSales .null) byRegion ≠ pivot (northernSales (.text "NaN")) byRegion := by
    intro hSame
    rw [hSame, hOld] at hNew
    simp [Json.int] at hNew
  exact ⟨apart_byRegion, northernSales_cleared hNotNumeric, hOld, hNew, hDiffer,
    pivot?_eq_some hFits, pivot?_eq_some hFitsNull⟩

end Crosstab
