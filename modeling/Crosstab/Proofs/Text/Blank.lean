import Crosstab.Text.Blank
import Mathlib.Data.List.DropRight

/-!
Trimming. What is left of a text has no blank ends, and it is empty just if the text was blank.
-/

namespace Crosstab.Text

theorem trimChars_eq_rdropWhile (cs : List Char) :
    trimChars cs = (cs.dropWhile isBlank).rdropWhile isBlank := rfl

/-- Nothing is left just if nothing but blanks was there. -/
theorem trimChars_eq_nil {cs : List Char} : trimChars cs = [] ↔ cs.all isBlank := by
  rw [trimChars_eq_rdropWhile, List.rdropWhile_eq_nil_iff, List.all_eq_true]
  constructor
  · intro hRest c hMem
    rw [← List.takeWhile_append_dropWhile (p := isBlank) (l := cs)] at hMem
    rcases List.mem_append.mp hMem with hFront | hBack
    · exact List.mem_takeWhile_imp hFront
    · exact hRest c hBack
  · exact fun hAll c hMem => hAll c ((List.dropWhile_sublist _).subset hMem)

/-- Dropping blanks at the end does not uncover any at the front. -/
theorem dropWhile_trimChars (cs : List Char) : (trimChars cs).dropWhile isBlank = trimChars cs := by
  rw [List.dropWhile_eq_self_iff]
  intro hPos
  have hPrefix : trimChars cs <+: cs.dropWhile isBlank := List.rdropWhile_prefix _ _
  have hLong : 0 < (cs.dropWhile isBlank).length := hPos.trans_le hPrefix.length_le
  rw [hPrefix.getElem hPos]
  exact List.dropWhile_get_zero_not isBlank cs hLong

/-- What has been trimmed stays as it is. -/
theorem trimChars_trimChars (cs : List Char) : trimChars (trimChars cs) = trimChars cs := by
  rw [trimChars_eq_rdropWhile (trimChars cs), dropWhile_trimChars, trimChars_eq_rdropWhile,
    List.rdropWhile_idempotent]

/-- Blanks in front do not count. -/
theorem trimChars_append_of_blank {blanks : List Char} (h : ∀ c ∈ blanks, isBlank c)
    (cs : List Char) : trimChars (blanks ++ cs) = trimChars cs := by
  rw [trimChars, List.dropWhile_append_of_pos h, trimChars]

theorem trimChars_of_not_blank {cs : List Char} (h : ∀ c ∈ cs, ¬isBlank c) : trimChars cs = cs := by
  have hFront : cs.dropWhile isBlank = cs := by
    rw [List.dropWhile_eq_self_iff]
    exact fun hPos => h _ (List.getElem_mem hPos)
  rw [trimChars_eq_rdropWhile, hFront, List.rdropWhile_eq_self_iff]
  exact fun hSome => h _ (List.getLast_mem hSome)

/-- The end of a trimmed text has blanks at its front only. -/
theorem trimChars_of_suffix {cs rest : List Char} (h : rest <:+ trimChars cs) :
    trimChars rest = rest.dropWhile isBlank := by
  rw [trimChars_eq_rdropWhile, List.rdropWhile_eq_self_iff]
  intro hSome
  have hSuffix : rest.dropWhile isBlank <:+ trimChars cs := (List.dropWhile_suffix _).trans h
  rw [hSuffix.getLast hSome]
  exact List.rdropWhile_last_not isBlank _ _

theorem trim_trim (s : String) : trim (trim s) = trim s := by
  rw [trim, trim, String.toList_ofList, trimChars_trimChars]

/-- A text is blank just if nothing is left of it. -/
theorem trim_eq_empty {s : String} : trim s = "" ↔ isBlankText s := by
  rw [trim, isBlankText, ← trimChars_eq_nil]
  constructor
  · intro h
    simpa using congrArg String.toList h
  · intro h
    rw [h]

end Crosstab.Text
