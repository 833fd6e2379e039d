import Crosstab.Table.Spread
import Mathlib.Data.List.Basic

/-!
Slices of a list. The cells under one header stand side by side, and so do the headers: the slice of
a header begins where those before it end. Slices do not overlap, so that replacing one leaves the
others as they are, and a list cut into pieces of their length falls into its slices.
-/

namespace Crosstab.Pivot

variable {α : Type}

/-- The cells of the header at a place, one for each measure. -/
def slice (measures h : Nat) (cells : List α) : List α := (cells.drop (h * measures)).take measures

/-- Cells with those of one header replaced. -/
def mapSlice (measures h : Nat) (f : List α → List α) (cells : List α) : List α :=
  cells.take (h * measures) ++ (f (slice measures h cells) ++ cells.drop ((h + 1) * measures))

variable {measures h k count : Nat} {cells : List α} {f : List α → List α}

/-- The slices of the first `count` headers lie within their cells. -/
theorem slice_within (hLength : cells.length = count * measures) (hSlot : h < count) :
    (h + 1) * measures ≤ cells.length := by
  rw [hLength]
  exact Nat.mul_le_mul_right measures hSlot

/-- The slices of different headers have no cell in common. -/
theorem slice_disjoint (hNe : h ≠ k) {i : Nat} (hFirst : h * measures ≤ i)
    (hLast : i < (h + 1) * measures) : i < k * measures ∨ (k + 1) * measures ≤ i := by
  rcases Nat.lt_or_gt_of_ne hNe with hBefore | hAfter
  · exact .inl (Nat.lt_of_lt_of_le hLast (Nat.mul_le_mul_right measures hBefore))
  · exact .inr (Nat.le_trans (Nat.mul_le_mul_right measures hAfter) hFirst)

theorem length_slice (hWithin : (h + 1) * measures ≤ cells.length) :
    (slice measures h cells).length = measures := by
  rw [Nat.succ_mul] at hWithin
  rw [slice, List.length_take, List.length_drop]
  omega

/-- A slice begins where the slices before it end. -/
theorem getElem?_slice {i : Nat} (hi : i < measures) :
    (slice measures h cells)[i]? = cells[h * measures + i]? := by
  rw [slice, List.getElem?_take_of_lt hi, List.getElem?_drop]

theorem length_mapSlice (hWithin : (h + 1) * measures ≤ cells.length)
    (hf : ∀ xs, xs.length = measures → (f xs).length = measures) :
    (mapSlice measures h f cells).length = cells.length := by
  have hPiece := hf _ (length_slice hWithin)
  rw [Nat.succ_mul] at hWithin
  rw [mapSlice, List.length_append, List.length_append, hPiece, List.length_take, List.length_drop,
    Nat.succ_mul]
  omega

/-- In its own slice, a change shows. -/
theorem slice_mapSlice_self (hWithin : (h + 1) * measures ≤ cells.length)
    (hf : ∀ xs, xs.length = measures → (f xs).length = measures) :
    slice measures h (mapSlice measures h f cells) = f (slice measures h cells) := by
  have hPiece := hf _ (length_slice hWithin)
  have hFront : (cells.take (h * measures)).length = h * measures := by
    rw [Nat.succ_mul] at hWithin
    rw [List.length_take]
    omega
  rw [slice, mapSlice, List.drop_left' hFront, List.take_left' hPiece]

/-- Cells outside a slice stay as they are when it is replaced. -/
theorem getElem?_mapSlice (hWithin : (h + 1) * measures ≤ cells.length)
    (hf : ∀ xs, xs.length = measures → (f xs).length = measures) {i : Nat}
    (hOutside : i < h * measures ∨ (h + 1) * measures ≤ i) :
    (mapSlice measures h f cells)[i]? = cells[i]? := by
  have hPiece := hf _ (length_slice hWithin)
  rw [Nat.succ_mul] at hWithin hOutside
  have hFront : (cells.take (h * measures)).length = h * measures := by
    rw [List.length_take]
    omega
  rw [mapSlice]
  rcases hOutside with hBefore | hAfter
  · rw [List.getElem?_append_left (by omega), List.getElem?_take_of_lt hBefore]
  · rw [List.getElem?_append_right (by omega), List.getElem?_append_right (by omega),
      List.getElem?_drop, hFront, hPiece, Nat.succ_mul]
    congr 1
    omega

/-- In other slices, nothing changes. -/
theorem slice_mapSlice_of_ne (hNe : k ≠ h) (hWithin : (h + 1) * measures ≤ cells.length)
    (hf : ∀ xs, xs.length = measures → (f xs).length = measures) :
    slice measures k (mapSlice measures h f cells) = slice measures k cells := by
  apply List.ext_getElem?
  intro i
  by_cases hi : i < measures
  · rw [getElem?_slice hi, getElem?_slice hi]
    apply getElem?_mapSlice hWithin hf
    apply slice_disjoint hNe (Nat.le_add_right _ _)
    rw [Nat.succ_mul]
    omega
  · have hBeyond (xs : List α) : (slice measures k xs)[i]? = none := by
      apply List.getElem?_eq_none
      exact Nat.le_trans (List.length_take_le _ _) (Nat.not_lt.mp hi)
    rw [hBeyond, hBeyond]

/-- Without the first slice, the others move up. -/
theorem slice_succ (h : Nat) (cells : List α) :
    slice measures (h + 1) cells = slice measures h (cells.drop measures) := by
  rw [slice, slice, List.drop_drop, Nat.succ_mul, Nat.add_comm]

/-- The first piece is taken off, and the rest is cut in the same way. -/
theorem chunks_of_ne_nil {n : Nat} (hPos : 0 < n) {xs : List α} (hSome : xs ≠ []) :
    chunks n xs = xs.take n :: chunks n (xs.drop n) := by
  cases xs with
  | nil => exact absurd rfl hSome
  | cons x xs =>
      cases n with
      | zero => cases hPos
      | succ n => rw [chunks, Nat.add_sub_cancel, List.take_succ_cons, List.drop_succ_cons]

/-- Pieces as long as slices are the slices, in the order of the headers. -/
theorem chunks_eq_map_slice (hPos : 0 < measures) (hLength : cells.length = count * measures) :
    chunks measures cells = (List.range count).map fun h => slice measures h cells := by
  induction count generalizing cells with
  | zero =>
      have hNil : cells = [] := List.length_eq_zero_iff.mp (by omega)
      rw [hNil, chunks]
      rfl
  | succ count ih =>
      rw [Nat.succ_mul] at hLength
      have hSome : cells ≠ [] := List.ne_nil_of_length_pos (by omega)
      have hRest : (cells.drop measures).length = count * measures := by
        rw [List.length_drop]
        omega
      have hFirst : cells.take measures = slice measures 0 cells := by simp [slice]
      rw [chunks_of_ne_nil hPos hSome, ih hRest, List.range_succ_eq_map, List.map_cons,
        List.map_map, hFirst]
      congr 1
      exact List.map_congr_left fun h _ => (slice_succ h cells).symm

end Crosstab.Pivot
