import Crosstab.Proofs.Table.Combination
import Mathlib.Algebra.BigOperators.Ring.List
import Mathlib.Algebra.GroupWithZero.Nat

/-!
What the header of a combination shows. A header is extended without a separator as long as it reads
empty, whether no text went into it yet or only empty ones did. Empty texts in front of a
combination therefore leave no trace in its header, and the others stand with a separator between
each two.
-/

namespace Crosstab.Pivot

open Crosstab.Text

/-- A header that reads as something gets a separator before each further text. -/
theorem foldl_extendHeader {header : String} (h : header ≠ "") (texts : List String) :
    texts.foldl extendHeader header = joined headerSeparator (header :: texts) := by
  induction texts generalizing header with
  | nil =>
      show header = joined headerSeparator [header]
      rw [joined, String.intercalate_singleton]
  | cons text texts ih =>
      have hExtend : extendHeader header text = header ++ headerSeparator ++ text := by
        rw [extendHeader, if_neg (by simpa using h)]
      have hShown : header ++ headerSeparator ++ text ≠ "" := by
        intro hEmpty
        exact h (String.append_eq_empty_iff.mp (String.append_eq_empty_iff.mp hEmpty).1).1
      calc (text :: texts).foldl extendHeader header
        _ = texts.foldl extendHeader (header ++ headerSeparator ++ text) := by
            rw [List.foldl_cons, hExtend]
        _ = joined headerSeparator ((header ++ headerSeparator ++ text) :: texts) := ih hShown
        _ = joined headerSeparator (header :: text :: texts) := by
            rw [joined, joined, String.intercalate_cons_append, String.intercalate_cons_cons]

/-- A leading empty text leaves no trace. -/
theorem headerOf_empty_cons (texts : List String) : headerOf ("" :: texts) = headerOf texts := rfl

/-- Behind a text that says something, all others are joined. -/
theorem headerOf_cons_of_ne {text : String} (h : text ≠ "") (texts : List String) :
    headerOf (text :: texts) = joined headerSeparator (text :: texts) :=
  foldl_extendHeader h texts

/-- The header of a combination joins its texts from the first one on that is not empty. -/
theorem headerOf_eq (texts : List String) :
    headerOf texts = joined headerSeparator (texts.dropWhile String.isEmpty) := by
  induction texts with
  | nil => rfl
  | cons text texts ih =>
      by_cases hText : text = ""
      · rw [hText, headerOf_empty_cons, ih, List.dropWhile_cons_of_pos rfl]
      · rw [headerOf_cons_of_ne hText, List.dropWhile_cons_of_neg (by simpa using hText)]

/-- In front of other texts an empty one should leave its separator. -/
theorem joined_empty_cons_cons (next : String) (texts : List String) :
    joined headerSeparator ("" :: next :: texts) =
      headerSeparator ++ joined headerSeparator (next :: texts) := by
  rw [joined, String.intercalate_cons_cons, String.empty_append, joined]

/-- A header is never longer than the joined texts. -/
theorem length_headerOf_le (texts : List String) :
    (headerOf texts).length ≤ (joined headerSeparator texts).length := by
  induction texts with
  | nil => exact Nat.le_refl _
  | cons text texts ih =>
      by_cases hText : text = ""
      · rw [hText, headerOf_empty_cons]
        cases texts with
        | nil => exact ih
        | cons next texts =>
            rw [joined_empty_cons_cons, String.length_append]
            exact Nat.le_add_left_of_le ih
      · rw [headerOf_cons_of_ne hText]

/-- A header shows all texts of its combination unless there are several and the first one is
empty. -/
theorem headerOf_eq_joined_iff {texts : List String} :
    headerOf texts = joined headerSeparator texts ↔ texts.length ≤ 1 ∨ texts.head? ≠ some "" := by
  cases texts with
  | nil => exact iff_of_true rfl (.inl (Nat.zero_le 1))
  | cons text texts =>
      by_cases hText : text = ""
      · subst hText
        cases texts with
        | nil => exact iff_of_true rfl (.inl (Nat.le_refl 1))
        | cons next rest =>
            apply iff_of_false
            · -- The header is no longer than the other texts joined, which lack a separator.
              intro hEq
              have hFew := length_headerOf_le (next :: rest)
              rw [← headerOf_empty_cons, hEq, joined_empty_cons_cons, String.length_append] at hFew
              have hSeparator : headerSeparator.length = 3 := rfl
              omega
            · simp
      · exact iff_of_true (headerOf_cons_of_ne hText texts) (.inr (by simpa using hText))

theorem length_of_mem_tuples {axes : List (List String)} {texts : List String}
    (h : texts ∈ tuples axes) : texts.length = axes.length :=
  (mem_tuples.mp h).length_eq

/-- There are no combinations just if some axis has no text. -/
theorem tuples_eq_nil_iff {axes : List (List String)} : tuples axes = [] ↔ [] ∈ axes := by
  rw [← List.length_eq_zero_iff, length_tuples, List.prod_eq_zero_iff]
  simp

/-- When a combination of several axes begins with the empty text. -/
theorem exists_empty_head_iff (axes : List (List String)) :
    (∃ texts ∈ tuples axes, 1 < texts.length ∧ texts.head? = some "") ↔
      1 < axes.length ∧ [] ∉ axes ∧ ∃ kept ∈ axes.head?, "" ∈ kept := by
  constructor
  · intro ⟨texts, hMem, hSeveral, hFirst⟩
    refine ⟨length_of_mem_tuples hMem ▸ hSeveral, fun hNone => ?_, ?_⟩
    · rw [tuples_eq_nil_iff.mpr hNone] at hMem
      cases hMem
    · cases mem_tuples.mp hMem with
      | nil => cases hFirst
      | cons hText _ =>
          obtain rfl := Option.some.inj hFirst
          exact ⟨_, rfl, hText⟩
  · intro ⟨hSeveral, hSome, kept, hKept, hText⟩
    cases axes with
    | nil => cases hKept
    | cons first axes =>
        obtain rfl := Option.some.inj hKept
        have hRest : tuples axes ≠ [] := by
          rw [Ne, tuples_eq_nil_iff]
          exact fun hMem => hSome (List.mem_cons_of_mem _ hMem)
        obtain ⟨texts, hTexts⟩ := List.exists_mem_of_ne_nil _ hRest
        refine ⟨"" :: texts, mem_tuples.mpr (.cons hText (mem_tuples.mp hTexts)), ?_, rfl⟩
        rw [List.length_cons, length_of_mem_tuples hTexts]
        exact hSeveral

/-- The combinations come with the first axis outermost, and the header of each joins its texts from
the first one on that is not empty. All texts are shown in all headers just if there is only one
axis, or no combination, or no empty text on the first axis. -/
theorem combinations_joined_iff (axes : List (List String)) :
    combinations axes =
      (tuples axes).map (fun texts => joined headerSeparator (texts.dropWhile String.isEmpty)) ∧
    (combinations axes = (tuples axes).map (joined headerSeparator) ↔
      axes.length ≤ 1 ∨ [] ∈ axes ∨ ∀ kept ∈ axes.head?, "" ∉ kept) := by
  constructor
  · rw [combinations_eq]
    exact List.map_congr_left fun texts _ => headerOf_eq texts
  · have hShown : combinations axes = (tuples axes).map (joined headerSeparator) ↔
        ¬∃ texts ∈ tuples axes, 1 < texts.length ∧ texts.head? = some "" := by
      rw [combinations_eq, List.map_inj_left]
      simp only [headerOf_eq_joined_iff]
      grind
    rw [hShown, exists_empty_head_iff]
    grind

/-- A region that reads empty is missing from its header, which is that of the brand alone. -/
theorem combinations_unnamedRegion :
    combinations [["", "NORTH"], ["ACME"]] = ["ACME", "NORTH | ACME"] ∧
    (tuples [["", "NORTH"], ["ACME"]]).map (joined headerSeparator) = [" | ACME", "NORTH | ACME"] ∧
    combinations [["", "NORTH"], ["ACME"]] ≠
      (tuples [["", "NORTH"], ["ACME"]]).map (joined headerSeparator) ∧
    (pivot [[("region", .text ""), ("brand", .text "ACME"), ("revenue", .int 1)]]
      { rowKeys := [], columnKeys := ["region", "brand"], measureKeys := ["revenue"],
        cap := 25 }).headers = ["ACME"] := by
  refine ⟨?_, ?_, ?_, ?_⟩ <;> decide +kernel

end Crosstab.Pivot
