import Crosstab.Proofs.Keyed
import Crosstab.Proofs.Table.Combination

/-!
Where a row of a pivot counts. An axis keeps the texts that it shows first, and a row counts under
the combination of its texts as long as every axis keeps its own; all other rows count together.
-/

namespace Crosstab

open Crosstab.Pivot

namespace PivotLayout

variable (layout : PivotLayout) (rows : List Row)

/-- The texts that an axis keeps: of all that it shows, the first ones, and at least one. -/
def kept (key : String) : List String :=
  (rows.map fun row => axisText (row.lookup key)).eraseDups.take (max layout.cap 1)

def axes : List (List String) := layout.columnKeys.map (layout.kept rows)

/-- Where a row counts: under the combination of its texts if every axis keeps its text, or else
under none of them. -/
def slot (row : Row) : Option (List String) :=
  if ∀ key ∈ layout.columnKeys, axisText (row.lookup key) ∈ layout.kept rows key then
    some (axisTexts layout.columnKeys row)
  else none

/-- Every place where rows may count: all combinations, and the place for all other rows if there
are any. -/
def slots : List (Option (List String)) :=
  (tuples (layout.axes rows)).map some ++
    if ∃ row ∈ rows, layout.slot rows row = none then [none] else []

/-- What is kept row by row is what appears first among all rows. -/
theorem keptTexts_eq (key : String) :
    keptTexts (max layout.cap 1) rows key = layout.kept rows key := by
  rw [keptTexts, Keyed.distinct_eq_eraseDups, kept]

theorem map_keptTexts :
    layout.columnKeys.map (keptTexts (max layout.cap 1) rows) = layout.axes rows :=
  List.map_congr_left fun key _ => layout.keptTexts_eq rows key

theorem nodup_kept (key : String) : (layout.kept rows key).Nodup := by
  rw [kept, ← Keyed.distinct_eq_eraseDups]
  exact (Keyed.nodup_distinct _).sublist (List.take_sublist _ _)

theorem nodup_axes : (tuples (layout.axes rows)).Nodup := by
  apply nodup_tuples
  intro texts hMem
  obtain ⟨key, -, rfl⟩ := List.mem_map.mp hMem
  exact layout.nodup_kept rows key

/-- An axis keeps all its texts, as far as the cap goes. -/
theorem length_kept (key : String) : (layout.kept rows key).length =
    min ((rows.map fun row => axisText (row.lookup key)).toFinset.card) (max layout.cap 1) := by
  rw [kept, List.length_take, ← Keyed.distinct_eq_eraseDups, Keyed.length_distinct, Nat.min_comm]

variable {layout rows}

/-- A row counts in the combination of its own texts. -/
theorem slot_eq_some {row : Row} {texts : List String} : layout.slot rows row = some texts ↔
    texts = axisTexts layout.columnKeys row ∧ texts ∈ tuples (layout.axes rows) := by
  have hAll : axisTexts layout.columnKeys row ∈ tuples (layout.axes rows) ↔
      ∀ key ∈ layout.columnKeys, axisText (row.lookup key) ∈ layout.kept rows key := by
    rw [mem_tuples, axisTexts, axes, List.forall₂_map_left_iff, List.forall₂_map_right_iff,
      List.forall₂_same]
  unfold slot
  split
  next hKept =>
    rw [Option.some.injEq]
    constructor
    · rintro rfl
      exact ⟨rfl, hAll.mpr hKept⟩
    · exact fun h => h.1.symm
  next hKept =>
    constructor
    · intro hEq
      cases hEq
    · rintro ⟨rfl, hMem⟩
      exact absurd (hAll.mp hMem) hKept

/-- A row has no combination just if some axis did not keep its text. -/
theorem slot_eq_none {row : Row} : layout.slot rows row = none ↔
    ∃ key ∈ layout.columnKeys, axisText (row.lookup key) ∉ layout.kept rows key := by
  unfold slot
  split
  next hKept => simpa using hKept
  next hKept => simpa using hKept

/-- The position of a row is the place of its combination. -/
theorem position?_axisTexts (row : Row) :
    position? (layout.axes rows) (axisTexts layout.columnKeys row) 0 =
      (layout.slot rows row).bind fun texts => (tuples (layout.axes rows)).idxOf? texts := by
  have hLength : (axisTexts layout.columnKeys row).length = (layout.axes rows).length := by
    rw [axisTexts, axes, List.length_map, List.length_map]
  rw [position?_eq hLength]
  cases hSlot : layout.slot rows row with
  | some texts =>
      obtain ⟨rfl, -⟩ := slot_eq_some.mp hSlot
      rfl
  | none =>
      rw [Option.bind_none, List.idxOf?_eq_none_iff]
      intro hMem
      rw [slot_eq_some.mpr ⟨rfl, hMem⟩] at hSlot
      cases hSlot

/-- No place stands twice. -/
theorem nodup_slots : (layout.slots rows).Nodup := by
  have hCombined := (layout.nodup_axes rows).map (Option.some_injective _)
  unfold slots
  split
  next => exact List.nodup_append'.mpr ⟨hCombined, List.nodup_singleton none, by simp⟩
  next => rwa [List.append_nil]

/-- Every row counts somewhere. -/
theorem slot_mem_slots {row : Row} (hMem : row ∈ rows) :
    layout.slot rows row ∈ layout.slots rows := by
  cases hSlot : layout.slot rows row with
  | some texts =>
      exact List.mem_append_left _ (List.mem_map_of_mem (slot_eq_some.mp hSlot).2)
  | none =>
      have hOther : ∃ row ∈ rows, layout.slot rows row = none := ⟨row, hMem, hSlot⟩
      rw [slots, if_pos hOther]
      exact List.mem_append_right _ List.mem_cons_self

/-- An axis leaves a text out just if it shows more texts than it may keep. -/
theorem exists_notMem_kept (key : String) :
    (∃ row ∈ rows, axisText (row.lookup key) ∉ layout.kept rows key) ↔
      max layout.cap 1 < ((rows.map fun row => axisText (row.lookup key)).toFinset).card := by
  rw [← Keyed.length_distinct, kept, ← Keyed.distinct_eq_eraseDups]
  have hNodup := Keyed.nodup_distinct (rows.map fun row => axisText (row.lookup key))
  have hShown (text : String) :
      text ∈ Keyed.distinct (rows.map fun row => axisText (row.lookup key)) ↔
        ∃ row ∈ rows, axisText (row.lookup key) = text := by
    rw [Keyed.mem_distinct, List.mem_map]
  generalize Keyed.distinct (rows.map fun row => axisText (row.lookup key)) = texts at *
  constructor
  · rintro ⟨row, hRow, hNot⟩
    by_contra hFew
    rw [List.take_of_length_le (Nat.le_of_not_lt hFew)] at hNot
    exact hNot ((hShown _).mpr ⟨row, hRow, rfl⟩)
  · intro hMany
    -- The first text beyond the cap is not among those before it.
    have hLeft : texts[max layout.cap 1] ∈ texts.drop (max layout.cap 1) := by
      rw [List.drop_eq_getElem_cons hMany]
      exact List.mem_cons_self
    obtain ⟨row, hRow, hText⟩ := (hShown _).mp (List.mem_of_mem_drop hLeft)
    refine ⟨row, hRow, ?_⟩
    intro hKept
    rw [← List.take_append_drop (max layout.cap 1) texts] at hNodup
    rw [hText] at hKept
    exact List.disjoint_of_nodup_append hNodup hKept hLeft

end PivotLayout

end Crosstab
