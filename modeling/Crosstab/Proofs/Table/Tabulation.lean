import Crosstab.Proofs.Table.Room

/-!
Cells of a pivot. Each row counts under one header of one group, and a cell is the sum of its
measure over the rows that count there.
-/

namespace Crosstab

open Crosstab.Pivot

/-- The cell for a measure over rows: their sum from the left, beginning with zero. It is a plain
zero if there are no rows or if no number denotes the sum. -/
def cellOver (measure : String) (rows : List Row) : Json :=
  let sum := rows.foldl (fun sum row => sum + Json.addend (row.lookup measure)) 0
  if rows ≠ [] ∧ sum.isFinite then .number (.float sum) else .int 0

namespace PivotLayout

variable (layout : PivotLayout) (rows : List Row)

/-- The rows of a group that count at a place. -/
def members (id : List String) (place : Option (List String)) : List Row :=
  rows.filter fun row => axisTexts layout.rowKeys row = id ∧ layout.slot rows row = place

/-- An output row stands for the rows with given texts under the row keys. It has the values of the
first of them, as far as no cell has the same key, and under every cell key the last cell with that
key. -/
structure Summarizes (columns : List (String × Option (List String))) (id : List String)
    (out : Row) : Prop where
  values : ∃ first, rows.find? (fun row => axisTexts layout.rowKeys row = id) = some first ∧
    ∀ key ∈ layout.rowKeys,
      (∀ cell ∈ columns ×ˢ layout.measureKeys, cellKey cell.1.1 cell.2 ≠ key) →
      out.lookup key = some ((first.lookup key).getD .null)
  cells : ∀ before header place measure after,
    columns ×ˢ layout.measureKeys = before ++ ((header, place), measure) :: after →
    (∀ later ∈ after, cellKey later.1.1 later.2 ≠ cellKey header measure) →
    out.lookup (cellKey header measure) =
      some (cellOver measure (layout.members rows id place))

end PivotLayout

/-- A pivot has a row for each group, in order of first appearance, and a header for each place.
Every row counts in exactly one place. -/
structure PivotTable.Tabulates (table : PivotTable) (rows : List Row) (layout : PivotLayout) :
    Prop where
  headers : table.headers.length = (layout.slots rows).length
  placed : (layout.slots rows).Nodup ∧ ∀ row ∈ rows, layout.slot rows row ∈ layout.slots rows
  /-- The rows that have no combination of their own are reported if there are any. -/
  other : (table.overflowed ↔ ∃ row ∈ rows, layout.slot rows row = none) ∧
    ∀ header, (header, none) ∈ table.headers.zip (layout.slots rows) → header = otherHeader
  rows : List.Forall₂ (layout.Summarizes rows (table.headers.zip (layout.slots rows)))
    (rows.map (axisTexts layout.rowKeys)).eraseDups table.rows

/-- A sum shows as the cell over its rows. -/
theorem cellValue_total? (measure : String) (rows : List Row) :
    cellValue (total? measure rows) = cellOver measure rows := by
  cases rows with
  | nil => simp [total?, cellValue, cellOver]
  | cons first rest =>
      have hTotal : total? measure (first :: rest) = some ((first :: rest).foldl
        (fun sum row => sum + Json.addend (row.lookup measure)) 0) := rfl
      rw [hTotal, cellValue, cellOver]
      split <;> simp_all [Json.float]

namespace PivotLayout

variable (layout : PivotLayout) (rows : List Row)

/-- The headers, each with the place that it stands for. -/
def columns : List (String × Option (List String)) :=
  (pivot rows layout).headers.zip (layout.slots rows)

/-- Where a place stands among the combinations. -/
def positionOf (place : Option (List String)) : Option Nat :=
  place.bind fun texts => (tuples (layout.axes rows)).idxOf? texts

/-- What is put into the output row for given texts under the row keys. -/
def pairs (id : List String) : List (String × Json) :=
  layout.rowKeys.map (fun key => (key,
    (((rows.find? fun row => axisTexts layout.rowKeys row = id).getD []).lookup key).getD .null)) ++
  (layout.columns rows ×ˢ layout.measureKeys).map fun cell =>
    (cellKey cell.1.1 cell.2, cellOver cell.2 (layout.members rows id cell.1.2))

variable {layout rows}

/-- Every place but the one for other rows is a combination. -/
theorem mem_tuples_of_mem_slots {texts : List String} (h : some texts ∈ layout.slots rows) :
    texts ∈ tuples (layout.axes rows) := by
  unfold slots at h
  split at h <;> simpa using h

/-- Different places stand at different positions. -/
theorem positionOf_injOn {first second : Option (List String)}
    (hFirst : ∀ texts, first = some texts → texts ∈ tuples (layout.axes rows))
    (hSecond : ∀ texts, second = some texts → texts ∈ tuples (layout.axes rows))
    (h : layout.positionOf rows first = layout.positionOf rows second) : first = second := by
  have hFound {texts : List String} (hMem : texts ∈ tuples (layout.axes rows)) :
      ∃ i, (tuples (layout.axes rows)).idxOf? texts = some i :=
    Option.isSome_iff_exists.mp (List.isSome_idxOf?.mpr hMem)
  cases first with
  | none =>
      cases second with
      | none => rfl
      | some texts =>
          obtain ⟨i, hAt⟩ := hFound (hSecond texts rfl)
          simp [positionOf, hAt] at h
  | some texts =>
      obtain ⟨i, hAt⟩ := hFound (hFirst texts rfl)
      cases second with
      | none => simp [positionOf, hAt] at h
      | some others =>
          have hOther : (tuples (layout.axes rows)).idxOf? others = some i := by
            simpa [positionOf, hAt] using h.symm
          obtain ⟨_, hTexts, -⟩ := List.idxOf?_eq_some_iff.mp hAt
          obtain ⟨_, hOthers, -⟩ := List.idxOf?_eq_some_iff.mp hOther
          rw [← hTexts, ← hOthers]

/-- There are as many headers as places. -/
theorem length_slots : (pivot rows layout).headers.length = (layout.slots rows).length := by
  rw [length_headers_pivot, combinations_eq, slots, List.length_append, List.length_map,
    List.length_map]
  simp only [← overflowed_pivot]
  split <;> rfl

/-- Headers and places are paired in order. -/
theorem columns_eq : layout.columns rows =
    (distinctHeaders (if (pivot rows layout).overflowed then [otherHeader] else [])
      (combinations (layout.axes rows))).zip ((tuples (layout.axes rows)).map some) ++
      if (pivot rows layout).overflowed then [(otherHeader, none)] else [] := by
  have hLength : (distinctHeaders (if (pivot rows layout).overflowed then [otherHeader] else [])
      (combinations (layout.axes rows))).length =
        ((tuples (layout.axes rows)).map some).length := by
    rw [length_distinctHeaders, combinations_eq, List.length_map, List.length_map]
  rw [columns, headers_pivot, slots, List.zip_append hLength]
  congr 1
  simp only [← overflowed_pivot]
  split <;> rfl

/-- Numbering headers from the left gives each the position of its place. -/
theorem zipIdx_named :
    (distinctHeaders (if (pivot rows layout).overflowed then [otherHeader] else [])
        (combinations (layout.axes rows))).zipIdx.map (fun (header, i) => (header, some i)) ++
      (if (pivot rows layout).overflowed then [(otherHeader, none)] else []) =
    (layout.columns rows).map fun column => (column.1, layout.positionOf rows column.2) := by
  rw [columns_eq, List.map_append]
  congr 1
  · refine List.ext_getElem ?_ fun i hLeft hRight => ?_
    · simp [length_distinctHeaders, combinations_eq]
    · have hWithin : i < (tuples (layout.axes rows)).length := by
        simpa [length_distinctHeaders, combinations_eq] using hLeft
      have hPlace : layout.positionOf rows (some (tuples (layout.axes rows))[i]) = some i := by
        refine List.idxOf?_eq_some_iff.mpr ⟨hWithin, rfl, fun j hj hEq => ?_⟩
        exact absurd (((layout.nodup_axes rows).getElem_inj_iff).mp hEq) (Nat.ne_of_lt hj)
      simp [hPlace]
  · split <;> rfl

/-- The rows at the position of a place are the members of the group there. -/
theorem rowsAt_eq (id : List String) {place : Option (List String)}
    (hPlace : place ∈ layout.slots rows) :
    rowsAt (layout.positionOf rows place) ((rows.map fun row =>
      (position? (layout.axes rows) (axisTexts layout.columnKeys row) 0, row)).filter
        fun placed => axisTexts layout.rowKeys placed.2 == id) = layout.members rows id place := by
  have hSame (row : Row) : position? (layout.axes rows) (axisTexts layout.columnKeys row) 0 =
      layout.positionOf rows place ↔ layout.slot rows row = place := by
    rw [position?_axisTexts]
    refine ⟨positionOf_injOn (fun texts hSlot => (slot_eq_some.mp hSlot).2) ?_, fun h => h ▸ rfl⟩
    rintro texts rfl
    exact mem_tuples_of_mem_slots hPlace
  rw [rowsAt, List.filter_filter, List.filter_map, List.map_map, members]
  refine (List.map_id _).trans (List.filter_congr fun row _ => ?_)
  rw [Bool.eq_iff_iff]
  simp [hSame, and_comm]

theorem outputRow_eq (id : List String) :
    outputRow layout ((layout.columns rows).map fun column =>
        (column.1, layout.positionOf rows column.2))
      ((rows.map fun row =>
        (position? (layout.axes rows) (axisTexts layout.columnKeys row) 0, row)).filter
          fun placed => axisTexts layout.rowKeys placed.2 == id) =
      Keyed.ofPairs (layout.pairs rows id) := by
  have hFirst : (((rows.map fun row =>
      (position? (layout.axes rows) (axisTexts layout.columnKeys row) 0, row)).filter
        fun placed => axisTexts layout.rowKeys placed.2 == id).head?.map Prod.snd) =
      rows.find? fun row => axisTexts layout.rowKeys row = id := by
    rw [List.head?_filter, List.find?_map, Option.map_map]
    refine Option.map_id'.trans (congrArg (List.find? · rows) ?_)
    funext row
    rw [Bool.eq_iff_iff]
    simp
  have hCells (column : String × Option (List String)) (hColumn : column ∈ layout.columns rows) :
      cells layout.measureKeys ((rows.map fun row =>
        (position? (layout.axes rows) (axisTexts layout.columnKeys row) 0, row)).filter
          fun placed => axisTexts layout.rowKeys placed.2 == id) column.1
            (layout.positionOf rows column.2) =
        layout.measureKeys.map fun measure =>
          (cellKey column.1 measure, cellOver measure (layout.members rows id column.2)) := by
    rw [cells, rowsAt_eq id (List.of_mem_zip hColumn).2]
    simp only [cellValue_total?]
  rw [outputRow, hFirst, pairs, List.flatMap_map]
  congr 2
  rw [show layout.columns rows ×ˢ layout.measureKeys = (layout.columns rows).flatMap fun column =>
    layout.measureKeys.map (Prod.mk column) from rfl, List.map_flatMap]
  simp only [List.flatMap_def, List.map_map, Function.comp_def]
  rw [List.map_congr_left hCells]

/-- The rows of a pivot, one for each combination of texts under the row keys. -/
theorem rows_pivot : (pivot rows layout).rows =
    (rows.map (axisTexts layout.rowKeys)).eraseDups.map fun id =>
      Keyed.ofPairs (layout.pairs rows id) := by
  have hHeaders := @zipIdx_named layout rows
  simp only [pivot, map_keptTexts] at hHeaders ⊢
  rw [hHeaders, Keyed.distinct_eq_eraseDups, List.map_map]
  exact List.map_congr_left fun id _ => outputRow_eq id

/-- The row of a group has the values and the cells of that group. -/
theorem summarizes_ofPairs {id : List String} (hId : id ∈ rows.map (axisTexts layout.rowKeys)) :
    layout.Summarizes rows (layout.columns rows) id (Keyed.ofPairs (layout.pairs rows id)) := by
  constructor
  case values =>
    obtain ⟨row, hRow, hTexts⟩ := List.mem_map.mp hId
    have hSome : (rows.find? fun row => axisTexts layout.rowKeys row = id).isSome :=
      List.find?_isSome.mpr ⟨row, hRow, by simpa using hTexts⟩
    obtain ⟨first, hFirst⟩ := Option.isSome_iff_exists.mp hSome
    refine ⟨first, hFirst, ?_⟩
    intro key hKey hApart
    rw [pairs, hFirst, Keyed.lookup_ofPairs_append, ← List.map_reverse]
    · exact Keyed.lookup_map_pair (fun key => (first.lookup key).getD .null)
        (List.mem_reverse.mpr hKey)
    · intro hMem
      rw [List.map_map] at hMem
      obtain ⟨cell, hCell, hEq⟩ := List.mem_map.mp hMem
      exact hApart cell hCell hEq
  case cells =>
    intro before header place measure after hSplit hLast
    rw [pairs, hSplit, List.map_append, List.map_cons, ← List.singleton_append, ← List.append_assoc,
      ← List.append_assoc, Keyed.lookup_ofPairs_append, List.reverse_append]
    · exact List.lookup_cons_self
    · intro hMem
      rw [List.map_map] at hMem
      obtain ⟨later, hLater, hKey⟩ := List.mem_map.mp hMem
      exact hLast later hLater hKey

end PivotLayout

/-- In exact arithmetic every row counts in one place of one group, and every cell is the sum over
the rows that count there. -/
theorem tabulates_exact (rows : List Row) (layout : PivotLayout) :
    (pivot rows layout).Tabulates rows layout := by
  constructor
  case headers => exact PivotLayout.length_slots
  case placed => exact ⟨PivotLayout.nodup_slots, fun _ => PivotLayout.slot_mem_slots⟩
  case other =>
    refine ⟨overflowed_pivot, ?_⟩
    intro header hMem
    change (header, none) ∈ layout.columns rows at hMem
    rw [PivotLayout.columns_eq, List.mem_append] at hMem
    rcases hMem with hNamed | hOther
    · have hCombined := (List.of_mem_zip hNamed).2
      simp at hCombined
    · split at hOther <;> simp_all
  case rows =>
    rw [PivotLayout.rows_pivot, List.forall₂_map_right_iff, List.forall₂_same]
    intro id hId
    exact PivotLayout.summarizes_ofPairs (List.mem_eraseDups.mp hId)

/-- If there is room, every row of the input counts in one place of one group, and every cell is the
sum over the rows that count there. Without room for all headers or for the cells of a group, there
is no table at all. -/
theorem tabulates_pivot (rows : List Row) (layout : PivotLayout) :
    (layout.Fits rows → ∃ table, pivot? rows layout = some table ∧ table.Tabulates rows layout) ∧
    (maxBytes < headerBytes * ((layout.axes rows).map List.length).prod →
      pivot? rows layout = none) ∧
    (rows ≠ [] → maxBytes < cellBytes * ((((layout.axes rows).map List.length).prod *
      layout.measureKeys.length) % 2 ^ 64) → pivot? rows layout = none) := by
  refine ⟨fun hFits => ?_, pivot?_eq_none_of_headers, pivot?_eq_none_of_cells⟩
  exact ⟨_, pivot?_eq_some hFits, tabulates_exact rows layout⟩

/-- Two regions under one column. -/
theorem tabulates_twoRegions : ∃ table,
    pivot? (uniformRows ["region"] ["NORTH", "SOUTH"]) (columnLayout ["region"]) = some table ∧
      table.Tabulates (uniformRows ["region"] ["NORTH", "SOUTH"]) (columnLayout ["region"]) := by
  apply (tabulates_pivot _ _).1
  exact ⟨by decide +kernel, fun _ => by decide +kernel⟩

/-- Two rows that differ on each of 64 axes are not tabulated. -/
theorem untabulated_oppositeRegions :
    ¬∃ table, pivot? (uniformRows ((List.range 64).map toString) ["NORTH", "SOUTH"])
        (columnLayout ((List.range 64).map toString)) = some table ∧
      table.Tabulates (uniformRows ((List.range 64).map toString) ["NORTH", "SOUTH"])
        (columnLayout ((List.range 64).map toString)) := by
  rintro ⟨table, hTable, -⟩
  rw [pivot?_uniformRows (by decide) rfl (by decide)] at hTable
  cases hTable

end Crosstab
