import Crosstab.Proofs.Table.Header
import Crosstab.Proofs.Table.Slice

/-!
The sums of a group in one list. While rows are read, the sums stand header by header, and for each
header measure by measure: a row is added to the slice of its combination, and in the end the list
is cut into pieces that are paired with the headers. The position of a combination is below the
number of headers and different from that of every other one, so that the slices are all there and
do not overlap, and it is the place where the header stands, so that every header gets its own
slice. Main statement: that is what a pivot shows.
-/

namespace Crosstab.Pivot

namespace Sums

def empty (measures : List String) (count : Nat) : Sums :=
  ⟨List.replicate (count * measures.length) none, List.replicate measures.length none⟩

/-- Sums with a row added under its position. -/
def add (measures : List String) (sums : Sums) : Option Nat × Row → Sums
  | (some h, row) =>
    { sums with cells := mapSlice measures.length h (addValues measures row) sums.cells }
  | (none, row) => { sums with other := addValues measures row sums.other }

/-- The sums after all rows of a group. -/
def ofGroup (measures : List String) (count : Nat) (group : Placed) : Sums :=
  group.foldl (add measures) (empty measures count)

/-- The output row of a group: the values under the row keys as its first row has them, and under
each header the piece that it is paired with. -/
def outputRow (layout : PivotLayout) (table : PivotTable) (first : Row) (sums : Sums) : Row :=
  Keyed.ofPairs <|
    layout.rowKeys.map (fun key => (key, (first.lookup key).getD .null)) ++
      (table.headers.zip (sums.pieces layout.measureKeys table.overflowed)).flatMap
          fun (header, piece) =>
        (layout.measureKeys.zip piece).map fun (measure, sum) =>
          (cellKey header measure, cellValue sum)

/-- What sums hold after the rows of a group: in the slice of each header the totals over the rows
at its position. -/
structure Totals (measures : List String) (count : Nat) (group : Placed) (sums : Sums) : Prop where
  length : sums.cells.length = count * measures.length
  cells : ∀ h < count, slice measures.length h sums.cells =
    measures.map fun measure => total? measure (rowsAt (some h) group)
  other : sums.other = measures.map fun measure => total? measure (rowsAt none group)

end Sums

/-- A last row is added to the sum over the rows before it. -/
theorem total?_append_singleton (measure : String) (rows : List Row) (row : Row) :
    total? measure (rows ++ [row]) =
      some ((total? measure rows).getD 0 + Json.addend (row.lookup measure)) := by
  cases rows with
  | nil => rfl
  | cons first rows => simp [total?, List.foldl_append]

/-- A last row counts at its own position only. -/
theorem rowsAt_append_singleton (position : Option Nat) (group : Placed)
    (placed : Option Nat × Row) : rowsAt position (group ++ [placed]) =
      rowsAt position group ++ if placed.1 = position then [placed.2] else [] := by
  by_cases h : placed.1 = position <;> simp [rowsAt, List.filter_append, h]

theorem length_addValues {measures : List String} (row : Row) {sums : List (Option Float)}
    (h : sums.length = measures.length) :
    (addValues measures row sums).length = measures.length := by
  rw [addValues, List.length_zipWith, h, Nat.min_self]

/-- Sums over some rows become sums over one more. -/
theorem addValues_totals (measures : List String) (row : Row) (rows : List Row) :
    addValues measures row (measures.map fun measure => total? measure rows) =
      measures.map fun measure => total? measure (rows ++ [row]) := by
  rw [addValues, List.zipWith_map_left, List.zipWith_self]
  exact List.map_congr_left fun measure _ => (total?_append_singleton measure rows row).symm

namespace Sums

variable {measures : List String} {count : Nat} {group : Placed} {sums : Sums}

theorem totals_empty : (empty measures count).Totals measures count [] := by
  have hNone : (measures.map fun measure => total? measure []) =
      List.replicate measures.length (none : Option Float) := List.map_const'
  constructor
  case length => exact List.length_replicate
  case cells =>
    intro h hSlot
    have hWithin : (h + 1) * measures.length ≤ (empty measures count).cells.length :=
      slice_within List.length_replicate hSlot
    apply Eq.trans ?_ hNone.symm
    rw [List.eq_replicate_iff]
    constructor
    · exact length_slice hWithin
    · intro sum hMem
      exact List.eq_of_mem_replicate (List.mem_of_mem_drop (List.mem_of_mem_take hMem))
  case other => exact hNone.symm

/-- A row changes the totals at its own position and no others. -/
theorem Totals.add (h : sums.Totals measures count group) {placed : Option Nat × Row}
    (hPlace : ∀ i, placed.1 = some i → i < count) :
    (sums.add measures placed).Totals measures count (group ++ [placed]) := by
  obtain ⟨position, row⟩ := placed
  have hSame := rowsAt_append_singleton position group (position, row)
  rw [if_pos rfl] at hSame
  have hOther {other : Option Nat} (hNe : position ≠ other) :
      rowsAt other (group ++ [(position, row)]) = rowsAt other group := by
    rw [rowsAt_append_singleton, if_neg hNe, List.append_nil]
  cases position with
  | none =>
      constructor
      case length => exact h.length
      case cells =>
        intro k hk
        rw [hOther (by simp)]
        exact h.cells k hk
      case other =>
        rw [hSame, ← addValues_totals, ← h.other]
        rfl
  | some i =>
      have hWithin := slice_within h.length (hPlace i rfl)
      have hAdd (xs : List (Option Float)) := @length_addValues measures row xs
      constructor
      case length => exact (length_mapSlice hWithin hAdd).trans h.length
      case cells =>
        intro k hk
        by_cases hNe : k = i
        · subst hNe
          rw [hSame, ← addValues_totals, ← h.cells k hk]
          exact slice_mapSlice_self hWithin hAdd
        · rw [hOther (by simpa using Ne.symm hNe), ← h.cells k hk]
          exact slice_mapSlice_of_ne hNe hWithin hAdd
      case other =>
        rw [hOther (by simp)]
        exact h.other

/-- After all rows of a group, the sums are those over its rows, by induction over the rows. -/
theorem totals_ofGroup (h : ∀ placed ∈ group, ∀ i, placed.1 = some i → i < count) :
    (ofGroup measures count group).Totals measures count group := by
  induction group using List.reverseRecOn with
  | nil => exact totals_empty
  | append_singleton group placed ih =>
      obtain ⟨hGroup, hPlaced⟩ := List.forall_mem_append.mp h
      have hStep := (ih hGroup).add (hPlaced placed List.mem_cons_self)
      rwa [ofGroup, List.foldl_append]

end Sums

/-- What stands at the position of a combination is that combination. -/
theorem getElem?_of_position? {axes : List (List String)} {texts : List String} {i : Nat}
    (hLength : texts.length = axes.length) (h : position? axes texts 0 = some i) :
    (tuples axes)[i]? = some texts := by
  rw [position?_eq hLength] at h
  obtain ⟨hWithin, hAt, -⟩ := List.idxOf?_eq_some_iff.mp h
  exact List.getElem?_eq_some_iff.mpr ⟨hWithin, by simpa using hAt⟩

/-- Positions are below the number of combinations. -/
theorem lt_of_position? {axes : List (List String)} {texts : List String} {i : Nat}
    (hLength : texts.length = axes.length) (h : position? axes texts 0 = some i) :
    i < (axes.map List.length).prod := by
  rw [← length_tuples]
  exact (List.getElem?_eq_some_iff.mp (getElem?_of_position? hLength h)).1

/-- The number of a combination: the places of its texts on their axes as digits, the first one
counting most. -/
def slotOf (axes : List (List String)) (texts : List String) : Nat :=
  (axes.zip texts).foldl (fun before (kept, text) => before * kept.length + kept.idxOf text) 0

theorem idxOf?_of_mem {kept : List String} {text : String} (h : text ∈ kept) :
    kept.idxOf? text = some (kept.idxOf text) := by
  obtain ⟨i, hi⟩ := Option.isSome_iff_exists.mp (List.isSome_idxOf?.mpr h)
  rw [List.idxOf_eq_getD_idxOf?, hi, Option.getD_some]

/-- If every axis keeps its text, no step of the fold fails. -/
theorem position?_eq_slotOf {axes : List (List String)} {texts : List String}
    (h : List.Forall₂ (· ∈ ·) texts axes) : position? axes texts 0 = some (slotOf axes texts) := by
  have hFrom (before : Nat) : position? axes texts before = some ((axes.zip texts).foldl
      (fun before (kept, text) => before * kept.length + kept.idxOf text) before) := by
    induction h generalizing before with
    | nil => rfl
    | cons hText _ ih =>
      simp only [position?, idxOf?_of_mem hText, ih, List.zip_cons_cons, List.foldl_cons]
  exact hFrom 0

/-- Headers, each with the position that it stands for, and the header of all other rows behind
them. -/
def positioned (named : List String) (overflowed : Bool) : List (String × Option Nat) :=
  (named.zipIdx.map fun (header, i) => (header, some i)) ++
    if overflowed then [(otherHeader, none)] else []

/-- Totals as they are shown under a header. -/
theorem zip_totals (header : String) (measures : List String) (total : String → Option Float) :
    (measures.zip (measures.map total)).map
        (fun (measure, sum) => (cellKey header measure, cellValue sum)) =
      measures.map fun measure => (cellKey header measure, cellValue (total measure)) := by
  induction measures with
  | nil => rfl
  | cons measure measures ih =>
    rw [List.map_cons, List.zip_cons_cons, List.map_cons, List.map_cons, ih]

namespace Sums

variable {measures : List String} {count : Nat} {group : Placed} {sums : Sums}

/-- Headers in order get the totals at their positions, and the last one those over all other
rows. -/
theorem Totals.zip_pieces (h : sums.Totals measures count group) (hPos : 0 < measures.length)
    {named : List String} (hNamed : named.length = count) (overflowed : Bool) :
    (named ++ if overflowed then [otherHeader] else []).zip (sums.pieces measures overflowed) =
      (positioned named overflowed).map fun (header, position) =>
        (header, measures.map fun measure => total? measure (rowsAt position group)) := by
  have hPieces : chunks (max measures.length 1) sums.cells = (List.range count).map fun i =>
      measures.map fun measure => total? measure (rowsAt (some i) group) := by
    rw [Nat.max_eq_left hPos, chunks_eq_map_slice hPos h.length]
    exact List.map_congr_left fun i hi => h.cells i (List.mem_range.mp hi)
  rw [pieces, hPieces, List.zip_append (by rw [hNamed, List.length_map, List.length_range]),
    h.other, positioned, List.map_append, List.map_map]
  congr 1
  · rw [List.zipIdx_eq_zip_range', hNamed, ← List.range_eq_range', List.zip_map_right]
    rfl
  · cases overflowed <;> rfl

/-- The output row written from sums is that of the group. -/
theorem Totals.outputRow_eq {layout : PivotLayout} {table : PivotTable}
    (h : sums.Totals layout.measureKeys count group) {named : List String}
    (hNamed : named.length = count)
    (hHeaders : table.headers = named ++ if table.overflowed then [otherHeader] else []) :
    sums.outputRow layout table ((group.head?.map Prod.snd).getD []) =
      Pivot.outputRow layout (positioned named table.overflowed) group := by
  rw [outputRow, Pivot.outputRow]
  congr 2
  rcases Nat.eq_zero_or_pos layout.measureKeys.length with hNone | hPos
  · -- Without measures there are no cells, however headers and pieces are paired.
    have hNil := List.length_eq_zero_iff.mp hNone
    refine Eq.trans (List.flatMap_eq_nil_iff.mpr fun column _ => ?_)
      (List.flatMap_eq_nil_iff.mpr fun column _ => ?_).symm
    · simp [hNil]
    · simp [hNil, Pivot.cells]
  · rw [hHeaders, h.zip_pieces hPos hNamed, List.flatMap_map]
    simp only [zip_totals]
    rfl

end Sums

end Crosstab.Pivot

namespace Crosstab

open Crosstab.Pivot

def PivotLayout.group (layout : PivotLayout) (rows : List Row) (id : List String) : Placed :=
  (rows.map fun row =>
    (position? (layout.axes rows) (axisTexts layout.columnKeys row) 0, row)).filter fun placed =>
      axisTexts layout.rowKeys placed.2 == id

/-- The sums over a group, with a slice for each combination. -/
def PivotLayout.sums (layout : PivotLayout) (rows : List Row) (id : List String) : Sums :=
  .ofGroup layout.measureKeys ((layout.axes rows).map List.length).prod (layout.group rows id)

/-- The output rows as they are written from the sums over each group. -/
def PivotLayout.summedRows (layout : PivotLayout) (rows : List Row) : List Row :=
  (rows.map (axisTexts layout.rowKeys)).eraseDups.map fun id =>
    (layout.sums rows id).outputRow layout (pivot rows layout)
      (((layout.group rows id).head?.map Prod.snd).getD [])

/-- How cells are laid out over axes. -/
structure Slotted (axes : List (List String)) : Prop where
  /-- Headers are listed as the combinations that they stand for would be. -/
  listed :
    axes.foldl
        (fun fronts kept => fronts.flatMap fun front => kept.map fun text => front ++ [text]) [[]] =
      tuples axes ∧ combinations axes = (tuples axes).map headerOf
  /-- The position of a combination is its number, and its place in the list. -/
  slot : ∀ texts, List.Forall₂ (· ∈ ·) texts axes →
    position? axes texts 0 = some (slotOf axes texts) ∧
    slotOf axes texts < (axes.map List.length).prod ∧
    ∀ i, (tuples axes)[i]? = some texts ↔ i = slotOf axes texts
  apart : ∀ texts others, List.Forall₂ (· ∈ ·) texts axes → List.Forall₂ (· ∈ ·) others axes →
    texts ≠ others → slotOf axes texts ≠ slotOf axes others
  /-- The slice of every combination is there, however many measures there are. -/
  within : ∀ (measures : Nat) (cells : List (Option Float)),
    cells.length = (axes.map List.length).prod * measures →
    ∀ texts, List.Forall₂ (· ∈ ·) texts axes →
    (slotOf axes texts + 1) * measures ≤ cells.length
  /-- No cell is in the slices of two combinations. -/
  disjoint : ∀ (measures : Nat) (texts others : List String), List.Forall₂ (· ∈ ·) texts axes →
    List.Forall₂ (· ∈ ·) others axes → texts ≠ others →
    ∀ i, slotOf axes texts * measures ≤ i → i < (slotOf axes texts + 1) * measures →
    i < slotOf axes others * measures ∨ (slotOf axes others + 1) * measures ≤ i
  /-- Every header is paired with the slice at its place. Without measures there are no cells to
  pair. -/
  paired : ∀ (measures : Nat) (cells : List (Option Float)),
    cells.length = (axes.map List.length).prod * measures →
    (combinations axes).zip (chunks (max measures 1) cells) =
      if measures = 0 then []
      else (combinations axes).zipIdx.map fun (header, i) => (header, slice measures i cells)

variable {axes : List (List String)}

/-- At its position, a combination is found. -/
theorem getElem?_slotOf {texts : List String} (h : List.Forall₂ (· ∈ ·) texts axes) :
    (tuples axes)[slotOf axes texts]? = some texts :=
  getElem?_of_position? h.length_eq (position?_eq_slotOf h)

/-- It is found nowhere else if no axis has a text twice. -/
theorem getElem?_tuples_iff (hNodup : ∀ kept ∈ axes, kept.Nodup) {texts : List String}
    (h : List.Forall₂ (· ∈ ·) texts axes) (i : Nat) :
    (tuples axes)[i]? = some texts ↔ i = slotOf axes texts := by
  have hSlot := getElem?_slotOf h
  have hWithin := (List.getElem?_eq_some_iff.mp hSlot).1
  constructor
  · intro hAt
    exact ((List.getElem?_inj hWithin (nodup_tuples hNodup)).mp (hSlot.trans hAt.symm)).symm
  · intro hEq
    rw [hEq, hSlot]

/-- Combinations with the same number are the same. -/
theorem slotOf_injOn {texts others : List String} (hTexts : List.Forall₂ (· ∈ ·) texts axes)
    (hOthers : List.Forall₂ (· ∈ ·) others axes) (h : slotOf axes texts = slotOf axes others) :
    texts = others := by
  have hAt := getElem?_slotOf hTexts
  rw [h, getElem?_slotOf hOthers] at hAt
  exact (Option.some.inj hAt).symm

/-- Each header is paired with its own slice. -/
theorem zip_chunks {measures : Nat} {cells : List (Option Float)}
    (hLength : cells.length = (axes.map List.length).prod * measures) :
    (combinations axes).zip (chunks (max measures 1) cells) =
      if measures = 0 then []
      else (combinations axes).zipIdx.map fun (header, i) => (header, slice measures i cells) := by
  split
  next hNone =>
    subst hNone
    rw [List.length_eq_zero_iff.mp hLength, chunks, List.zip_nil_right]
  next hSome =>
    have hPos : 0 < measures := Nat.pos_of_ne_zero hSome
    rw [Nat.max_eq_left hPos, chunks_eq_map_slice hPos hLength, List.zipIdx_eq_zip_range',
      length_combinations, ← List.range_eq_range', List.zip_map_right]
    rfl

/-- Cells are laid out by position if no axis has a text twice. -/
theorem slotted_of_nodup (hNodup : ∀ kept ∈ axes, kept.Nodup) : Slotted axes := by
  have hLt {texts : List String} (h : List.Forall₂ (· ∈ ·) texts axes) :
      slotOf axes texts < (axes.map List.length).prod :=
    lt_of_position? h.length_eq (position?_eq_slotOf h)
  constructor
  case listed =>
    refine ⟨?_, combinations_eq axes⟩
    have hAppend (texts : List String) :
        texts.foldl (fun front text => front ++ [text]) [] = texts := by
      simp [← List.flatMap_def]
    rw [foldl_extend, List.flatMap_singleton]
    simp only [hAppend, List.map_id']
  case slot => exact fun texts h => ⟨position?_eq_slotOf h, hLt h, getElem?_tuples_iff hNodup h⟩
  case apart => exact fun texts others hTexts hOthers hNe h => hNe (slotOf_injOn hTexts hOthers h)
  case within => exact fun measures cells hLength texts h => slice_within hLength (hLt h)
  case disjoint =>
    intro measures texts others hTexts hOthers hNe i hFirst hLast
    exact slice_disjoint (fun h => hNe (slotOf_injOn hTexts hOthers h)) hFirst hLast
  case paired => exact fun measures cells hLength => zip_chunks hLength

variable {layout : PivotLayout} {rows : List Row}

/-- Rows that have a position at all have one below the number of combinations. -/
theorem PivotLayout.totals_sums (id : List String) : (layout.sums rows id).Totals layout.measureKeys
    ((layout.axes rows).map List.length).prod (layout.group rows id) := by
  apply Sums.totals_ofGroup
  intro placed hPlaced i hPosition
  obtain ⟨row, -, rfl⟩ := List.mem_map.mp (List.mem_of_mem_filter hPlaced)
  refine lt_of_position? ?_ hPosition
  rw [axisTexts, PivotLayout.axes, List.length_map, List.length_map]

/-- The output rows are those that the sums make. -/
theorem PivotLayout.rows_eq_summedRows : (pivot rows layout).rows = layout.summedRows rows := by
  let named := distinctHeaders (if (pivot rows layout).overflowed then [otherHeader] else [])
    (combinations (layout.axes rows))
  have hNamed : named.length = ((layout.axes rows).map List.length).prod := by
    rw [length_distinctHeaders, length_combinations]
  have hRows : (pivot rows layout).rows =
      (rows.map (axisTexts layout.rowKeys)).eraseDups.map fun id =>
        outputRow layout (positioned named (pivot rows layout).overflowed)
          (layout.group rows id) := by
    simp only [pivot, PivotLayout.map_keptTexts, Keyed.distinct_eq_eraseDups, List.map_map, named,
      positioned]
    rfl
  rw [hRows, summedRows]
  exact List.map_congr_left fun id _ => ((totals_sums id).outputRow_eq hNamed headers_pivot).symm

/-- Every combination of kept texts has a slice of its own, in the order of the headers, and a pivot
shows what rows leave in the slices: under each header the totals over the rows of its
combination. -/
theorem slotted_pivot :
    (∀ axes : List (List String), (∀ kept ∈ axes, kept.Nodup) → Slotted axes) ∧
    ∀ (rows : List Row) (layout : PivotLayout), (pivot rows layout).rows = layout.summedRows rows ∧
      ∀ id, (layout.sums rows id).Totals layout.measureKeys
        ((layout.axes rows).map List.length).prod (layout.group rows id) := by
  constructor
  · intro axes hNodup
    exact slotted_of_nodup hNodup
  · intro rows layout
    exact ⟨PivotLayout.rows_eq_summedRows, fun id => PivotLayout.totals_sums id⟩

/-- Of two regions and two brands, the second brand in the first region comes second. -/
theorem slotted_regionsBrands :
    (∀ kept ∈ [["NORTH", "SOUTH"], ["ACME", "BOLT"]], kept.Nodup) ∧
    Slotted [["NORTH", "SOUTH"], ["ACME", "BOLT"]] ∧
    slotOf [["NORTH", "SOUTH"], ["ACME", "BOLT"]] ["NORTH", "BOLT"] = 1 ∧
    combinations [["NORTH", "SOUTH"], ["ACME", "BOLT"]] =
      ["NORTH | ACME", "NORTH | BOLT", "SOUTH | ACME", "SOUTH | BOLT"] := by
  have hNodup : ∀ kept ∈ [["NORTH", "SOUTH"], ["ACME", "BOLT"]], kept.Nodup := by decide
  exact ⟨hNodup, slotted_pivot.1 _ hNodup, by decide, by decide +kernel⟩

end Crosstab
