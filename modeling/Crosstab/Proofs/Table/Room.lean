import Crosstab.Proofs.Except
import Crosstab.Proofs.Table.Sums

/-!
Pivots for which there is room. As long as no number that is counted in a word reaches beyond it, a
word holds the number itself. By induction over the rows that have been read, each group then has
the sums of its rows, so that the table is the one of exact arithmetic. If there is no room for the
headers or for the cells, there is no table at all.
-/

namespace Crosstab

open Crosstab.Pivot

/-- There is room for a pivot: for all headers and, if there is a row at all, for the cells of a
group. -/
structure PivotLayout.Fits (layout : PivotLayout) (rows : List Row) : Prop where
  headers : headerBytes * ((layout.axes rows).map List.length).prod ≤ maxBytes
  cells : rows ≠ [] →
    cellBytes * (((layout.axes rows).map List.length).prod * layout.measureKeys.length) ≤ maxBytes

namespace Pivot

/-- A list that there is room for has no more entries than a word can count. -/
theorem lt_word_of_room {bytes count : Nat} (hBytes : 0 < bytes) (h : bytes * count ≤ maxBytes) :
    count < 2 ^ 64 :=
  calc count
    _ ≤ bytes * count := Nat.le_mul_of_pos_left count hBytes
    _ ≤ maxBytes := h
    _ < 2 ^ 64 := by decide

theorem combinationCount_eq (axes : List (List String)) :
    combinationCount axes = (axes.map List.length).prod := by
  induction axes with
  | nil => rfl
  | cons kept axes ih =>
      rw [List.map_cons, List.prod_cons, ← ih]
      rfl

/-- The number of combinations wraps around as a word does. -/
theorem toNat_headerCount (axes : List (List String)) :
    (headerCount axes).toNat = (axes.map List.length).prod % 2 ^ 64 := by
  induction axes using List.reverseRecOn with
  | nil => rfl
  | append_singleton axes kept ih =>
      calc (headerCount (axes ++ [kept])).toNat
        _ = (headerCount axes * .ofNat kept.length).toNat := by
            rw [headerCount, List.foldl_append]
            rfl
        _ = (axes.map List.length).prod % 2 ^ 64 * (kept.length % 2 ^ 64) % 2 ^ 64 := by
            rw [UInt64.toNat_mul, ih, UInt64.toNat_ofNat']
        _ = (axes.map List.length).prod * kept.length % 2 ^ 64 := (Nat.mul_mod _ _ _).symm
        _ = ((axes ++ [kept]).map List.length).prod % 2 ^ 64 := by
            rw [List.map_append, List.prod_append, List.map_singleton, List.prod_singleton]

/-- So does the place of a combination, and both are there for the same texts. -/
theorem map_toNat_place? (axes : List (List String)) (texts : List String) (before : UInt64) :
    (place? axes texts before).map UInt64.toNat =
      (position? axes texts before.toNat).map (· % 2 ^ 64) := by
  -- What counts is the word read as a number, up to the size of words.
  have hFrom (n : Nat) (hWord : before.toNat = n % 2 ^ 64) :
      (place? axes texts before).map UInt64.toNat =
        (position? axes texts n).map (· % 2 ^ 64) := by
    induction axes generalizing texts before n with
    | nil => simp [place?, position?, hWord]
    | cons kept axes ih =>
        cases texts with
        | nil => simp [place?, position?, hWord]
        | cons text texts =>
            rw [place?, position?]
            cases kept.idxOf? text with
            | none => rfl
            | some i =>
                apply ih
                calc (before * .ofNat kept.length + .ofNat i).toNat
                  _ = (n % 2 ^ 64 * (kept.length % 2 ^ 64) % 2 ^ 64 + i % 2 ^ 64) % 2 ^ 64 := by
                      rw [UInt64.toNat_add, UInt64.toNat_mul, hWord, UInt64.toNat_ofNat',
                        UInt64.toNat_ofNat']
                  _ = (n * kept.length + i) % 2 ^ 64 := by rw [← Nat.mul_mod, ← Nat.add_mod]
  exact hFrom before.toNat (Nat.mod_eq_of_lt before.toNat_lt).symm

/-- A combination has a place as a word just if it has one at all. -/
theorem isNone_place? (axes : List (List String)) (texts : List String) :
    (place? axes texts 0).isNone = (position? axes texts 0).isNone := by
  rw [← Option.isNone_map, map_toNat_place?, Option.isNone_map]
  rfl

/-- The slice of a header is a part of the cells. -/
theorem modifyPart?_slice {α : Type} {measures h : Nat} {f : List α → List α} {cells : List α}
    (hWithin : (h + 1) * measures ≤ cells.length) :
    modifyPart? (h * measures) ((h + 1) * measures) f cells =
      some (mapSlice measures h f cells) := by
  have hOrder : h * measures ≤ (h + 1) * measures := Nat.mul_le_mul_right measures (Nat.le_succ h)
  have hWidth : (h + 1) * measures - h * measures = measures := by
    rw [Nat.succ_mul, Nat.add_sub_cancel_left]
  rw [modifyPart?, if_pos ⟨hOrder, hWithin⟩, hWidth, mapSlice, slice]

/-- There are cells for the slices of all headers while rows are read. -/
theorem Sums.length_ofGroup {measures : List String} {count : Nat} {group : Placed}
    (h : ∀ placed ∈ group, ∀ i, placed.1 = some i → i < count) :
    (Sums.ofGroup measures count group).cells.length = count * measures.length :=
  (Sums.totals_ofGroup h).length

/-- Adding a row reaches the slice of its header if there is one and words hold where it ends. -/
theorem Sums.add?_eq {measures : List String} {row : Row} {sums : Sums} {place : Option UInt64}
    {position : Option Nat} {count : Nat} (hPlace : place.map UInt64.toNat = position)
    (hLength : sums.cells.length = count * measures.length)
    (hWithin : ∀ i, position = some i → i < count) (hRoom : count * measures.length < 2 ^ 64)
    (hCount : count < 2 ^ 64) :
    sums.add? measures row place = some (sums.add measures (position, row)) := by
  subst hPlace
  cases place with
  | none => rfl
  | some h =>
      have hSlot : h.toNat < count := hWithin h.toNat rfl
      have hEnd : (h.toNat + 1) * measures.length ≤ count * measures.length :=
        Nat.mul_le_mul_right measures.length hSlot
      have hStart : h.toNat * measures.length ≤ (h.toNat + 1) * measures.length :=
        Nat.mul_le_mul_right measures.length (Nat.le_succ h.toNat)
      have hNext : (h + 1).toNat = h.toNat + 1 := by
        rw [UInt64.toNat_add]
        exact Nat.mod_eq_of_lt (Nat.lt_of_le_of_lt hSlot hCount)
      have hWord (i : UInt64) (hi : i.toNat * measures.length < 2 ^ 64) :
          (i * .ofNat measures.length).toNat = i.toNat * measures.length := by
        rw [UInt64.toNat_mul, UInt64.toNat_ofNat', Nat.mul_mod_mod, Nat.mod_eq_of_lt hi]
      rw [add?, hWord h (by omega), hWord (h + 1) (by rw [hNext]; omega), hNext,
        modifyPart?_slice (hLength ▸ hEnd)]
      rfl

end Pivot

namespace PivotLayout

variable {layout : PivotLayout} {rows : List Row}

/-- One more row keeps what an axis would have kept of all rows. -/
theorem keep_kept (row : Row) (key : String) :
    keep (max layout.cap 1) row key (layout.kept rows key) = layout.kept (rows ++ [row]) key := by
  simp only [kept, keep, ← Keyed.distinct_eq_eraseDups, List.map_append, List.map_singleton,
    Keyed.distinct_append_singleton]
  generalize Keyed.distinct (rows.map fun row => axisText (row.lookup key)) = texts
  generalize axisText (row.lookup key) = text
  rcases Nat.lt_or_ge texts.length (max layout.cap 1) with hRoom | hFull
  · rw [List.take_of_length_le (Nat.le_of_lt hRoom)]
    by_cases hSeen : text ∈ texts
    · rw [if_neg (fun h => h.2 hSeen), if_pos hSeen, List.take_of_length_le (Nat.le_of_lt hRoom)]
    · rw [if_pos ⟨hRoom, hSeen⟩, if_neg hSeen, List.take_of_length_le]
      rw [List.length_append]
      exact hRoom
  · rw [if_neg fun h => Nat.lt_irrefl _ (List.length_take_of_le hFull ▸ h.1)]
    split
    next => rfl
    next => exact (List.take_append_of_le_length hFull).symm

/-- Reading the rows once keeps the texts that each axis shows first. -/
theorem axisValues_eq :
    axisValues (max layout.cap 1) rows layout.columnKeys = layout.axes rows := by
  induction rows using List.reverseRecOn with
  | nil => exact List.map_congr_left fun key _ => List.take_nil.symm
  | append_singleton rows row ih =>
      rw [axisValues, List.foldl_append, ← axisValues, ih, List.foldl_cons, List.foldl_nil, axes,
        List.zipWith_map_right, List.zipWith_self, axes]
      exact List.map_congr_left fun key _ => keep_kept row key

section Reading

variable (layout) (axes : List (List String)) (done : List Row)

/-- The rows read so far that have given texts under the row keys, each with its position. -/
def placed (id : List String) : Placed :=
  (done.map fun row => (position? axes (axisTexts layout.columnKeys row) 0, row)).filter
    fun placed => axisTexts layout.rowKeys placed.2 == id

/-- The values that rows have under the row keys, as the first of them has them. -/
def firstValues (group : Placed) : List (String × Json) :=
  layout.rowKeys.map fun key =>
    (key, (((group.head?.map Prod.snd).getD []).lookup key).getD .null)

/-- What a group is after some rows have been read. -/
def groupAfter (id : List String) : Group where
  id := id
  values := layout.firstValues (layout.placed axes done id)
  sums := .ofGroup layout.measureKeys (axes.map List.length).prod (layout.placed axes done id)

/-- What is known after some rows have been read. -/
def spreadAfter : Spread where
  groups := (Keyed.distinct (done.map (axisTexts layout.rowKeys))).map (layout.groupAfter axes done)
  overflowed := done.any fun row => (position? axes (axisTexts layout.columnKeys row) 0).isNone

/-- A group when a row is about to be added: it is there already, or the row begins it. -/
def opened (row : Row) (id : List String) : Group where
  id := id
  values := layout.firstValues (layout.placed axes (done ++ [row]) id)
  sums := .ofGroup layout.measureKeys (axes.map List.length).prod (layout.placed axes done id)

end Reading

variable {axes : List (List String)} {done : List Row} {row : Row} {id : List String}

/-- A row comes last in its own group. -/
theorem placed_append_self (h : axisTexts layout.rowKeys row = id) :
    layout.placed axes (done ++ [row]) id =
      layout.placed axes done id ++
        [(position? axes (axisTexts layout.columnKeys row) 0, row)] := by
  simp [placed, List.filter_append, h]

/-- Other groups stay as they are. -/
theorem placed_append_of_ne (h : axisTexts layout.rowKeys row ≠ id) :
    layout.placed axes (done ++ [row]) id = layout.placed axes done id := by
  simp [placed, List.filter_append, h]

/-- A group is empty as long as no row of it has been read. -/
theorem placed_eq_nil : layout.placed axes done id = [] ↔
    id ∉ done.map (axisTexts layout.rowKeys) := by
  simp [placed, List.filter_eq_nil_iff]

/-- Whatever rows come later, the values of a group are those of its first row. -/
theorem opened_of_mem (h : id ∈ done.map (axisTexts layout.rowKeys)) :
    layout.opened axes done row id = layout.groupAfter axes done id := by
  have hSome : layout.placed axes done id ≠ [] := fun hNil => placed_eq_nil.mp hNil h
  by_cases hSame : axisTexts layout.rowKeys row = id
  · rw [opened, groupAfter, firstValues, firstValues, placed_append_self hSame,
      List.head?_append_of_ne_nil _ hSome]
  · rw [opened, groupAfter, placed_append_of_ne hSame]

/-- The group that a row begins has the values of the row, and no sums yet. -/
theorem begin?_eq (hNew : axisTexts layout.rowKeys row ∉ done.map (axisTexts layout.rowKeys))
    (hRoom : cellBytes * ((axes.map List.length).prod * layout.measureKeys.length) ≤ maxBytes) :
    Group.begin? layout (headerCount axes) row =
      some (layout.opened axes done row (axisTexts layout.rowKeys row)) := by
  have hBound : (axes.map List.length).prod * layout.measureKeys.length < 2 ^ 64 :=
    lt_word_of_room (by decide) hRoom
  have hCells : (headerCount axes * .ofNat layout.measureKeys.length).toNat =
      (axes.map List.length).prod * layout.measureKeys.length := by
    rw [UInt64.toNat_mul, toNat_headerCount, UInt64.toNat_ofNat', ← Nat.mul_mod,
      Nat.mod_eq_of_lt hBound]
  have hNone : layout.placed axes done (axisTexts layout.rowKeys row) = [] := placed_eq_nil.mpr hNew
  simp only [Group.begin?, hCells, if_pos hRoom, opened, placed_append_self, hNone, firstValues]
  rfl

/-- A row added to its group counts there, and no other group takes notice of it. -/
theorem add?_opened (hKeys : axes.length = layout.columnKeys.length)
    (hRoom : cellBytes * ((axes.map List.length).prod * layout.measureKeys.length) ≤ maxBytes)
    (hCount : (axes.map List.length).prod < 2 ^ 64) (id : List String) :
    (layout.opened axes done row id).add? layout axes row =
      some (layout.groupAfter axes (done ++ [row]) id) := by
  have hBound : (axes.map List.length).prod * layout.measureKeys.length < 2 ^ 64 :=
    lt_word_of_room (by decide) hRoom
  have hBelow (other : Row) (i : Nat)
      (h : position? axes (axisTexts layout.columnKeys other) 0 = some i) :
      i < (axes.map List.length).prod := by
    apply lt_of_position? ?_ h
    rw [axisTexts, List.length_map, hKeys]
  by_cases hSame : axisTexts layout.rowKeys row = id
  · have hPlace : (place? axes (axisTexts layout.columnKeys row) 0).map UInt64.toNat =
        position? axes (axisTexts layout.columnKeys row) 0 := by
      rw [map_toNat_place?, UInt64.toNat_zero]
      cases hPosition : position? axes (axisTexts layout.columnKeys row) 0 with
      | none => rfl
      | some i =>
          exact congrArg some (Nat.mod_eq_of_lt (Nat.lt_trans (hBelow row i hPosition) hCount))
    have hLength : (layout.opened axes done row id).sums.cells.length =
        (axes.map List.length).prod * layout.measureKeys.length := by
      apply Sums.length_ofGroup
      intro placed hPlaced i hPosition
      obtain ⟨other, -, rfl⟩ := List.mem_map.mp (List.mem_of_mem_filter hPlaced)
      exact hBelow other i hPosition
    have hSums : (layout.groupAfter axes (done ++ [row]) id).sums =
        (layout.opened axes done row id).sums.add layout.measureKeys
          (position? axes (axisTexts layout.columnKeys row) 0, row) := by
      rw [groupAfter, opened, placed_append_self hSame, Sums.ofGroup, List.foldl_append]
      rfl
    have hId : (layout.opened axes done row id).id = axisTexts layout.rowKeys row := hSame.symm
    rw [Group.add?, if_pos hId, Sums.add?_eq hPlace hLength (hBelow row) hBound hCount,
      Option.map_some, ← hSums]
    rfl
  · have hId : (layout.opened axes done row id).id ≠ axisTexts layout.rowKeys row := fun h =>
      hSame h.symm
    rw [Group.add?, if_neg hId, opened, groupAfter, placed_append_of_ne hSame]

/-- The group of a row is there before the row is added. -/
theorem open?_spreadAfter
    (hRoom : cellBytes * ((axes.map List.length).prod * layout.measureKeys.length) ≤ maxBytes) :
    (layout.spreadAfter axes done).open? layout axes row =
      some ((Keyed.distinct ((done ++ [row]).map (axisTexts layout.rowKeys))).map
        (layout.opened axes done row)) := by
  have hAny : (layout.spreadAfter axes done).groups.any
      (fun g => decide (g.id = axisTexts layout.rowKeys row)) ↔
      axisTexts layout.rowKeys row ∈ Keyed.distinct (done.map (axisTexts layout.rowKeys)) := by
    rw [spreadAfter, List.any_map, List.any_eq_true]
    constructor
    · rintro ⟨id, hId, hSame⟩
      exact of_decide_eq_true hSame ▸ hId
    · intro hId
      exact ⟨_, hId, decide_eq_true rfl⟩
  have hSeen : (Keyed.distinct (done.map (axisTexts layout.rowKeys))).map
      (layout.opened axes done row) = (layout.spreadAfter axes done).groups :=
    List.map_congr_left fun id hId => opened_of_mem (Keyed.mem_distinct.mp hId)
  rw [Spread.open?, List.map_append, List.map_singleton, Keyed.distinct_append_singleton]
  split
  next hThere => rw [if_pos (hAny.mp hThere), hSeen]
  next hNew =>
    have hNew := fun hId => hNew (hAny.mpr hId)
    rw [if_neg hNew, begin?_eq (fun hId => hNew (Keyed.mem_distinct.mpr hId)) hRoom,
      Option.map_some, List.map_append, hSeen, List.map_singleton]

/-- One more row is read. -/
theorem add?_spreadAfter (hKeys : axes.length = layout.columnKeys.length)
    (hRoom : cellBytes * ((axes.map List.length).prod * layout.measureKeys.length) ≤ maxBytes)
    (hCount : (axes.map List.length).prod < 2 ^ 64) :
    (layout.spreadAfter axes done).add? layout axes row =
      some (layout.spreadAfter axes (done ++ [row])) := by
  have hAdded : ((Keyed.distinct ((done ++ [row]).map (axisTexts layout.rowKeys))).map
      (layout.opened axes done row)).mapM (Group.add? layout axes row) =
      some (layout.spreadAfter axes (done ++ [row])).groups :=
    mapM_eq_some.mpr <| forall₂_map <| List.forall₂_same.mpr fun id _ =>
      add?_opened hKeys hRoom hCount id
  simp only [Spread.add?, open?_spreadAfter hRoom, Option.bind_eq_bind, Option.bind_some, hAdded,
    isNone_place?]
  simp [spreadAfter]

/-- Whatever becomes of the sums, rows without a combination are noticed. -/
theorem overflowed_of_foldlM {s s' : Spread}
    (h : rows.foldlM (Spread.add? layout axes) s = some s') :
    s'.overflowed = (s.overflowed ||
      rows.any fun row => (position? axes (axisTexts layout.columnKeys row) 0).isNone) := by
  induction rows generalizing s with
  | nil =>
      obtain rfl := Option.some.inj h
      rw [List.any_nil, Bool.or_false]
  | cons row rows ih =>
      obtain ⟨next, hNext, hRest⟩ := Option.bind_eq_some_iff.mp h
      obtain ⟨groups, -, hAdded⟩ := Option.bind_eq_some_iff.mp hNext
      obtain ⟨groups, -, hNext⟩ := Option.bind_eq_some_iff.mp hAdded
      obtain rfl := Option.some.inj hNext
      rw [ih hRest, isNone_place?, Bool.or_assoc, List.any_cons]

/-- All rows are read, one after the other. -/
theorem foldlM_add? (hKeys : axes.length = layout.columnKeys.length)
    (hRoom : rows ≠ [] →
      cellBytes * ((axes.map List.length).prod * layout.measureKeys.length) ≤ maxBytes)
    (hCount : (axes.map List.length).prod < 2 ^ 64) :
    rows.foldlM (Spread.add? layout axes) {} = some (layout.spreadAfter axes rows) := by
  induction rows using List.reverseRecOn with
  | nil => rfl
  | append_singleton rows row ih =>
      have hRoom := hRoom (by simp)
      rw [List.foldlM_append, ih fun _ => hRoom, Option.bind_eq_bind, Option.bind_some,
        List.foldlM_cons, add?_spreadAfter hKeys hRoom hCount]
      rfl

end PivotLayout

variable {rows : List Row} {layout : PivotLayout}

theorem overflowed_eq : (pivot rows layout).overflowed =
    rows.any fun row =>
      (position? (layout.axes rows) (axisTexts layout.columnKeys row) 0).isNone := by
  simp [pivot, PivotLayout.map_keptTexts, List.any_map, Function.comp_def]

/-- A table that is there has the headers of the exact one and tells as much about other rows. -/
theorem heading_of_pivot? {table : PivotTable} (h : pivot? rows layout = some table) :
    table.headers = (pivot rows layout).headers ∧
      table.overflowed = (pivot rows layout).overflowed := by
  obtain ⟨spread, hSpread, hTable⟩ := Option.bind_eq_some_iff.mp h
  rw [PivotLayout.axisValues_eq] at hSpread hTable
  have hOverflowed : spread.overflowed = (pivot rows layout).overflowed := by
    rw [PivotLayout.overflowed_of_foldlM hSpread, overflowed_eq]
    rfl
  split at hTable
  next =>
    obtain rfl := Option.some.inj hTable
    rw [hOverflowed, headers_pivot]
    exact ⟨rfl, rfl⟩
  next => cases hTable

/-- If there is room, the table is the exact one. -/
theorem pivot?_eq_some (h : layout.Fits rows) : pivot? rows layout = some (pivot rows layout) := by
  have hCount : ((layout.axes rows).map List.length).prod < 2 ^ 64 :=
    lt_word_of_room (by decide) h.headers
  have hKeys : (layout.axes rows).length = layout.columnKeys.length := List.length_map _
  have hOverflowed : (layout.spreadAfter (layout.axes rows) rows).overflowed =
      (pivot rows layout).overflowed := overflowed_eq.symm
  have hRows : (layout.spreadAfter (layout.axes rows) rows).groups.map
      (Group.outputRow layout (pivot rows layout).headers (pivot rows layout).overflowed) =
        (pivot rows layout).rows := by
    rw [PivotLayout.rows_eq_summedRows, PivotLayout.summedRows, PivotLayout.spreadAfter,
      List.map_map, Keyed.distinct_eq_eraseDups]
    rfl
  simp only [pivot?, PivotLayout.axisValues_eq, PivotLayout.foldlM_add? hKeys h.cells hCount,
    combinationCount_eq, Option.bind_eq_bind, Option.bind_some, if_pos h.headers, hOverflowed,
      ← headers_pivot, hRows]

/-- Without room for all headers there is no table. -/
theorem pivot?_eq_none_of_headers
    (h : maxBytes < headerBytes * ((layout.axes rows).map List.length).prod) :
    pivot? rows layout = none := by
  simp only [pivot?, PivotLayout.axisValues_eq, combinationCount_eq, if_neg (Nat.not_le.mpr h)]
  exact Option.bind_eq_none_iff.mpr fun _ _ => rfl

/-- Without room for the cells of a group, the first row ends the pivot. -/
theorem pivot?_eq_none_of_cells (hSome : rows ≠ [])
    (h : maxBytes < cellBytes * ((((layout.axes rows).map List.length).prod *
      layout.measureKeys.length) % 2 ^ 64)) : pivot? rows layout = none := by
  obtain ⟨first, rest, rfl⟩ := List.exists_cons_of_ne_nil hSome
  have hCells : (headerCount (layout.axes (first :: rest)) *
      .ofNat layout.measureKeys.length).toNat =
        (((layout.axes (first :: rest)).map List.length).prod *
          layout.measureKeys.length) % 2 ^ 64 := by
    rw [UInt64.toNat_mul, toNat_headerCount, UInt64.toNat_ofNat', ← Nat.mul_mod]
  have hFirst : Spread.add? layout (layout.axes (first :: rest)) {} first = none := by
    have hBegin : Group.begin? layout (headerCount (layout.axes (first :: rest))) first = none := by
      rw [Group.begin?, hCells, if_neg (Nat.not_le.mpr h)]
    rw [Spread.add?, Spread.open?, List.any_nil, if_neg Bool.false_ne_true, hBegin]
    rfl
  simp only [pivot?, PivotLayout.axisValues_eq, List.foldlM_cons, hFirst]
  rfl

/-- Rows that have one text under all keys. -/
def uniformRows (keys texts : List String) : List Row :=
  texts.map fun text => keys.map fun key => (key, .text text)

/-- Every key a column of its own, and one measure. -/
def columnLayout (keys : List String) : PivotLayout where
  rowKeys := []
  columnKeys := keys
  measureKeys := ["revenue"]
  cap := defaultCap

/-- Each axis shows all texts, so that every key multiplies the headers. -/
theorem axes_uniformRows {keys texts : List String} (hNodup : texts.Nodup)
    (hCap : texts.length ≤ defaultCap) :
    (columnLayout keys).axes (uniformRows keys texts) = keys.map fun _ => texts := by
  apply List.map_congr_left
  intro key hKey
  have hShown : (uniformRows keys texts).map (fun row => axisText (row.lookup key)) = texts := by
    rw [uniformRows, List.map_map]
    refine (List.map_congr_left fun text _ => ?_).trans (List.map_id texts)
    exact congrArg axisText (Keyed.lookup_map_pair (fun _ => Json.text text) hKey)
  rw [PivotLayout.kept, hShown, ← Keyed.distinct_eq_eraseDups, Keyed.distinct_of_nodup hNodup]
  exact List.take_of_length_le (Nat.le_trans hCap (Nat.le_max_left _ _))

/-- Two texts on each of 59 axes are too many. -/
theorem pivot?_uniformRows {keys texts : List String} (hNodup : texts.Nodup)
    (hTwo : texts.length = 2) (hMany : 59 ≤ keys.length) :
    pivot? (uniformRows keys texts) (columnLayout keys) = none := by
  apply pivot?_eq_none_of_headers
  have hCap : texts.length ≤ defaultCap := by
    rw [hTwo]
    decide
  have hPower : 2 ^ 59 ≤ 2 ^ keys.length := Nat.pow_le_pow_right (by decide) hMany
  calc maxBytes
    _ < headerBytes * 2 ^ 59 := by decide
    _ ≤ headerBytes * 2 ^ keys.length := Nat.mul_le_mul_left _ hPower
    _ = headerBytes *
        (((columnLayout keys).axes (uniformRows keys texts)).map List.length).prod := by
        rw [axes_uniformRows hNodup hCap, List.map_map, Function.comp_def, List.map_const',
          List.prod_replicate, hTwo]

/-- The headers of every table are bounded and distinct and tell whether any text was left out.
There is a table if there is room for it, but none if there is no room for all headers or for the
cells of a group. The search for a header that is not taken ends after no more retries than there
are headers before it. -/
theorem headedBy_pivot (rows : List Row) (layout : PivotLayout) :
    (∀ table, pivot? rows layout = some table → table.HeadedBy rows layout) ∧
    (layout.Fits rows → ∃ table, pivot? rows layout = some table) ∧
    (maxBytes < headerBytes * ((layout.axes rows).map List.length).prod →
      pivot? rows layout = none) ∧
    (rows ≠ [] → maxBytes < cellBytes * ((((layout.axes rows).map List.length).prod *
      layout.measureKeys.length) % 2 ^ 64) → pivot? rows layout = none) ∧
    ∀ (reserved texts : List String) (i : Nat) (text : String), texts[i]? = some text →
      ∃ n ≤ reserved.length + i, (distinctHeaders reserved texts)[i]? = some (numbered text n) ∧
        numbered text n ∉ reserved ++ (distinctHeaders reserved texts).take i ∧
        ∀ m < n, numbered text m ∈ reserved ++ (distinctHeaders reserved texts).take i := by
  have hHeaded : ∀ table, pivot? rows layout = some table → table.HeadedBy rows layout := by
    intro table hTable
    obtain ⟨hHeaders, hOverflowed⟩ := heading_of_pivot? hTable
    exact (headedBy_exact rows layout).congr hHeaders hOverflowed
  have hRoom : layout.Fits rows → ∃ table, pivot? rows layout = some table := by
    intro hFits
    exact ⟨_, pivot?_eq_some hFits⟩
  refine ⟨hHeaded, hRoom, pivot?_eq_none_of_headers, pivot?_eq_none_of_cells, ?_⟩
  intro reserved texts i text hText
  exact getElem?_distinctHeaders reserved hText

/-- Three regions under one column: there is room for three headers. -/
theorem headedBy_threeRegions : ∃ table,
    pivot? (uniformRows ["region"] ["NORTH", "SOUTH", "EAST"]) (columnLayout ["region"]) =
      some table ∧
      table.HeadedBy (uniformRows ["region"] ["NORTH", "SOUTH", "EAST"])
        (columnLayout ["region"]) := by
  have hFits : (columnLayout ["region"]).Fits (uniformRows ["region"] ["NORTH", "SOUTH", "EAST"]) :=
    ⟨by decide +kernel, fun _ => by decide +kernel⟩
  obtain ⟨hHeaded, hRoom, -⟩ := headedBy_pivot (uniformRows ["region"] ["NORTH", "SOUTH", "EAST"])
    (columnLayout ["region"])
  obtain ⟨table, hTable⟩ := hRoom hFits
  exact ⟨table, hTable, hHeaded table hTable⟩

/-- Two texts on each of 64 axes are headed by nothing: the count of the headers wraps around to
zero. -/
theorem unheaded_oppositeRegions : headerCount (List.replicate 64 ["NORTH", "SOUTH"]) = 0 ∧
    ¬∃ table, pivot? (uniformRows ((List.range 64).map toString) ["NORTH", "SOUTH"])
        (columnLayout ((List.range 64).map toString)) = some table ∧
      table.HeadedBy (uniformRows ((List.range 64).map toString) ["NORTH", "SOUTH"])
        (columnLayout ((List.range 64).map toString)) := by
  constructor
  · decide +kernel
  · rintro ⟨table, hTable, -⟩
    rw [pivot?_uniformRows (by decide) rfl (by decide)] at hTable
    cases hTable

end Crosstab
