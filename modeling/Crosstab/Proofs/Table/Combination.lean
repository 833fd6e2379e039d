import Crosstab.Proofs.Table.Exact
import Mathlib.Algebra.BigOperators.Group.List.Basic
import Mathlib.Data.List.Forall2
import Mathlib.Data.List.Nodup

/-!
Combinations of texts, one of each axis. The headers of a pivot list them with the first axis
outermost, and the position computed for a row is the place of its own combination in that list.
-/

namespace Crosstab.Pivot

/-- All combinations of one text of each axis, the first axis outermost. -/
def tuples : List (List String) → List (List String)
  | [] => [[]]
  | texts :: axes => texts.flatMap fun text => (tuples axes).map (text :: ·)

def headerOf (texts : List String) : String := texts.foldl extendHeader ""

/-- The combinations are the choices of one text on each axis. -/
theorem mem_tuples {axes : List (List String)} {texts : List String} :
    texts ∈ tuples axes ↔ List.Forall₂ (· ∈ ·) texts axes := by
  induction axes generalizing texts with
  | nil => simp [tuples]
  | cons kept axes ih =>
      simp only [tuples, List.mem_flatMap, List.mem_map, ih, List.forall₂_cons_right_iff]
      constructor
      · rintro ⟨text, hText, rest, hRest, rfl⟩
        exact ⟨text, rest, hText, hRest, rfl⟩
      · rintro ⟨text, rest, hText, hRest, rfl⟩
        exact ⟨text, hText, rest, hRest, rfl⟩

/-- Their number is the product of the numbers of texts. -/
theorem length_tuples (axes : List (List String)) :
    (tuples axes).length = (axes.map List.length).prod := by
  induction axes with
  | nil => rfl
  | cons kept axes ih =>
      rw [tuples, List.length_flatMap, List.map_cons, List.prod_cons, ← ih]
      simp

/-- No combination occurs twice if no axis has a text twice. -/
theorem nodup_tuples {axes : List (List String)} (h : ∀ kept ∈ axes, kept.Nodup) :
    (tuples axes).Nodup := by
  induction axes with
  | nil => exact List.nodup_singleton []
  | cons kept axes ih =>
      obtain ⟨hKept, hAxes⟩ := List.forall_mem_cons.mp h
      refine List.nodup_flatMap.mpr ⟨fun text _ => ?_, ?_⟩
      · exact (ih hAxes).map fun first second hEq => (List.cons.inj hEq).2
      · -- Combinations that begin with different texts are different.
        refine hKept.imp fun {first second} hNe => ?_
        intro texts hFirst hSecond
        obtain ⟨_, -, rfl⟩ := List.mem_map.mp hFirst
        obtain ⟨_, -, hEq⟩ := List.mem_map.mp hSecond
        exact hNe (List.cons.inj hEq).1.symm

/-- Whatever is extended by one axis after the other is extended by the combinations in their
order. -/
theorem foldl_extend {α : Type} (extend : α → String → α) (axes : List (List String))
    (fronts : List α) :
    axes.foldl (fun fronts kept => fronts.flatMap fun front => kept.map (extend front)) fronts =
      fronts.flatMap fun front => (tuples axes).map fun texts => texts.foldl extend front := by
  induction axes generalizing fronts with
  | nil => simp [tuples]
  | cons kept axes ih =>
      rw [List.foldl_cons, ih, List.flatMap_assoc]
      congr 1
      funext front
      simp [tuples, List.map_flatMap, List.flatMap_map, Function.comp_def]

/-- Extending headers by one axis after the other reaches the combinations in the same order. -/
theorem combinations_eq (axes : List (List String)) :
    combinations axes = (tuples axes).map headerOf := by
  rw [combinations, foldl_extend, List.flatMap_singleton]
  rfl

theorem length_combinations (axes : List (List String)) :
    (combinations axes).length = (axes.map List.length).prod := by
  rw [combinations_eq, List.length_map, length_tuples]

/-- Axes that show nothing but the empty text leave no trace in headers. -/
theorem combinations_append_singleton {axes : List (List String)} (h : ∀ kept ∈ axes, kept = [""])
    (texts : List String) : combinations (axes ++ [texts]) = texts := by
  have hBlank : combinations axes = [""] := by
    induction axes with
    | nil => rfl
    | cons kept axes ih =>
        obtain ⟨rfl, hAxes⟩ := List.forall_mem_cons.mp h
        exact ih hAxes
  have hExtend : extendHeader "" = id := by
    funext text
    rfl
  calc combinations (axes ++ [texts])
    _ = (combinations axes).flatMap fun header => texts.map (extendHeader header) := by
        rw [combinations, List.foldl_append]
        rfl
    _ = texts.map (extendHeader "") := by rw [hBlank, List.flatMap_singleton]
    _ = texts := by rw [hExtend, List.map_id]

/-- The place of a combination, from the place of its first text and that of the rest of it. -/
theorem idxOf?_cons_flatMap (kept : List String) (rests : List (List String)) (text : String)
    (rest : List String) :
    (kept.flatMap fun first => rests.map (first :: ·)).idxOf? (text :: rest) =
      (kept.idxOf? text).bind fun i => (rests.idxOf? rest).map (i * rests.length + ·) := by
  induction kept with
  | nil => rfl
  | cons first kept ih =>
      have hBlock : (rests.map (first :: ·)).idxOf? (text :: rest) =
          if first == text then rests.idxOf? rest else none := by
        rw [List.idxOf?, List.findIdx?_map]
        by_cases hFirst : first = text
        · simp [hFirst, List.idxOf?, Function.comp_def]
        · simp [hFirst, List.findIdx?_eq_none_iff]
      have hSplit :
          ((first :: kept).flatMap fun first => rests.map (first :: ·)).idxOf? (text :: rest) =
            ((rests.map (first :: ·)).idxOf? (text :: rest)).or
            (((kept.flatMap fun first => rests.map (first :: ·)).idxOf? (text :: rest)).map
              (· + rests.length)) := by
        rw [List.flatMap_cons, List.idxOf?, List.findIdx?_append, List.length_map]
      rw [hSplit, hBlock, ih, List.idxOf?_cons]
      by_cases hFirst : first = text
      · cases hRest : rests.idxOf? rest <;> simp [hFirst]
      · cases hRest : rests.idxOf? rest <;> cases hKept : kept.idxOf? text <;>
          simp [hFirst, Nat.succ_mul]
        omega

/-- The position of a combination is its place in the list of all of them. -/
theorem position?_eq {axes : List (List String)} {texts : List String}
    (hLength : texts.length = axes.length) :
    position? axes texts 0 = (tuples axes).idxOf? texts := by
  -- What has been read already counts as often as there are combinations of the remaining axes.
  have hFrom (before : Nat) : position? axes texts before =
      ((tuples axes).idxOf? texts).map (before * (tuples axes).length + ·) := by
    induction axes generalizing texts before with
    | nil =>
        obtain rfl : texts = [] := List.length_eq_zero_iff.mp hLength
        simp [position?, tuples]
    | cons kept axes ih =>
        cases texts with
        | nil => simp at hLength
        | cons text texts =>
            have hBlocks : (tuples (kept :: axes)).length = kept.length * (tuples axes).length := by
              rw [length_tuples, length_tuples, List.map_cons, List.prod_cons]
            rw [hBlocks, tuples, idxOf?_cons_flatMap, position?]
            cases hKept : kept.idxOf? text with
            | none => rfl
            | some i =>
                simp only [ih (Nat.succ.inj hLength), Option.bind_some, Option.map_map]
                congr 1
                funext j
                show (before * kept.length + i) * (tuples axes).length + j =
                  before * (kept.length * (tuples axes).length) + (i * (tuples axes).length + j)
                rw [Nat.add_mul, Nat.mul_assoc, Nat.add_assoc]
  rw [hFrom 0]
  simp

end Crosstab.Pivot
