import Crosstab.Plan.Operand
import Mathlib

/-!
The patterns of `LIKE`. A percent sign stands for any run of characters and an underscore for any
one; behind the escape character, each character stands for itself. A text in which these three are
escaped is matched by itself only, whatever it consists of, and writing it in capitals does not
disturb the escapes.
-/

namespace Crosstab.Sql

/-- A part of a pattern. -/
inductive PatternPart where
  /-- Any run of characters, which may be empty. -/
  | run
  /-- Any one character. -/
  | one
  | char (c : Char)
deriving DecidableEq

/-- The parts of a pattern. A pattern that ends in an escape character with nothing behind it has
none. -/
def patternParts? (escape : Char) : List Char → Option (List PatternPart)
  | [] => some []
  | c :: rest =>
    if c = escape then
      match rest with
      | [] => none
      | escaped :: rest => (patternParts? escape rest).map (.char escaped :: ·)
    else
      (patternParts? escape rest).map
        ((if c = '%' then .run else if c = '_' then .one else .char c) :: ·)

/-- Whether characters are matched by the parts of a pattern, from the first to the last. A run may
end in front of any of the characters. -/
def matchesParts : List PatternPart → List Char → Bool
  | [], cs => cs.isEmpty
  | .run :: parts, cs => cs.tails.any (matchesParts parts)
  | .one :: parts, cs =>
    match cs with
    | [] => false
    | _ :: rest => matchesParts parts rest
  | .char x :: parts, cs =>
    match cs with
    | [] => false
    | c :: rest => x = c && matchesParts parts rest

section Matching

variable {parts : List PatternPart} {text cs : List Char}

/-- A run takes any characters in front of what the other parts match. -/
theorem matchesParts_run :
    matchesParts (.run :: parts) cs ↔ ∃ rest, rest <:+ cs ∧ matchesParts parts rest := by
  simp [matchesParts, List.any_eq_true, List.mem_tails]

theorem matchesParts_run_nil : matchesParts [.run] cs :=
  matchesParts_run.mpr ⟨[], List.nil_suffix, rfl⟩

/-- Parts that stand for themselves match just the characters they are. -/
theorem matchesParts_chars_append : matchesParts (text.map .char ++ parts) cs ↔
    ∃ rest, text ++ rest = cs ∧ matchesParts parts rest := by
  induction text generalizing cs with
  | nil => simp
  | cons x text ih =>
      cases cs with
      | nil => simp [matchesParts]
      | cons c cs => simp [matchesParts, ih, and_assoc]

/-- Characters before a run are matched at the beginning. -/
theorem matchesParts_chars_run : matchesParts (text.map .char ++ [.run]) cs ↔ text <+: cs := by
  rw [matchesParts_chars_append]
  exact exists_congr fun rest => and_iff_left matchesParts_run_nil

/-- Characters behind a run are matched at the end. -/
theorem matchesParts_run_chars : matchesParts (.run :: text.map .char) cs ↔ text <:+ cs := by
  have hWhole (rest : List Char) : matchesParts (text.map .char) rest ↔ text = rest := by
    have hChars := @matchesParts_chars_append [] text rest
    simpa [matchesParts] using hChars
  simp [matchesParts_run, hWhole]

/-- Characters between two runs are matched anywhere. -/
theorem matchesParts_run_chars_run :
    matchesParts (.run :: (text.map .char ++ [.run])) cs ↔ text <:+: cs := by
  rw [matchesParts_run, List.infix_iff_prefix_suffix]
  exact exists_congr fun rest => by rw [matchesParts_chars_run, and_comm]

end Matching

/-- Whether a character has a meaning of its own in patterns. -/
def isPatternSign (c : Char) : Bool := c == '\\' || c == '%' || c == '_'

/-- A character with a backslash in front of it if it would otherwise mean something else. -/
def escapedChar (c : Char) : List Char := if isPatternSign c then ['\\', c] else [c]

theorem toList_escapePattern (s : String) :
    (escapePattern s).toList = s.toList.flatMap escapedChar :=
  String.toList_ofList

/-- A character that is no sign stands for itself. -/
theorem patternParts?_cons_of_plain {c : Char} (h : ¬isPatternSign c) (rest : List Char) :
    patternParts? '\\' (c :: rest) = (patternParts? '\\' rest).map (.char c :: ·) := by
  simp only [isPatternSign, Bool.or_eq_true, beq_iff_eq, not_or] at h
  rw [patternParts?.eq_def]
  simp [h]

/-- Escaped characters are read as themselves. -/
theorem patternParts?_escaped_append (text rest : List Char) :
    patternParts? '\\' (text.flatMap escapedChar ++ rest) =
      (patternParts? '\\' rest).map (text.map .char ++ ·) := by
  induction text with
  | nil => simp
  | cons c text ih =>
      rw [List.flatMap_cons, List.append_assoc, escapedChar]
      split
      next hSign => simp [patternParts?, ih, Function.comp_def]
      next hPlain => simp [patternParts?_cons_of_plain hPlain, ih, Function.comp_def]

/-- Capitals that are written character by character. The signs of patterns are their own capitals,
and are in the capitals of no other character. -/
structure Capitalizes (upper : String → String) (capital : Char → List Char) : Prop where
  characters : ∀ s, (upper s).toList = s.toList.flatMap capital
  signs : ∀ c, isPatternSign c → capital c = [c]
  others : ∀ c, ¬isPatternSign c → ∀ x ∈ capital c, ¬isPatternSign x

namespace Capitalizes

variable {upper : String → String} {capital : Char → List Char}

/-- The capitals of an escaped character are its capitals, escaped. -/
theorem flatMap_escapedChar (h : Capitalizes upper capital) (c : Char) :
    (escapedChar c).flatMap capital = (capital c).flatMap escapedChar := by
  by_cases hSign : isPatternSign c
  · simp [escapedChar, hSign, h.signs c hSign, h.signs '\\' rfl]
  · have hPlain : (capital c).flatMap escapedChar = (capital c).flatMap fun x => [x] :=
      List.flatMap_congr fun x hMem => if_neg (h.others c hSign x hMem)
    simp [escapedChar, hSign, hPlain]

/-- A text may be escaped before or after it is written in capitals. -/
theorem toList_upper_escapePattern (h : Capitalizes upper capital) (s : String) :
    (upper (escapePattern s)).toList = (upper s).toList.flatMap escapedChar := by
  simp only [h.characters, toList_escapePattern, List.flatMap_assoc, h.flatMap_escapedChar]

end Capitalizes

/-! A store may know the letters of ASCII only, as `String.toUpper` does. -/

theorem toList_toUpper (s : String) : s.toUpper.toList = s.toList.map Char.toUpper := by
  rw [String.toUpper, String.toList_map]

theorem toUpper_toUpper (s : String) : s.toUpper.toUpper = s.toUpper := by
  simp [String.toUpper, String.map_map, Function.comp_def]

/-- The signs of patterns are no capital letters. -/
theorem isUpper_of_isPatternSign {c : Char} (h : isPatternSign c) : c.isUpper = false := by
  simp only [isPatternSign, Bool.or_eq_true, beq_iff_eq] at h
  rcases h with (rfl | rfl) | rfl <;> rfl

/-- ASCII capitals are taken character by character. -/
theorem capitalizes_toUpper : Capitalizes String.toUpper fun c => [c.toUpper] := by
  refine ⟨fun s => by simp [toList_toUpper, List.map_eq_flatMap], fun c hSign => ?_,
    fun c hPlain x hMem hSign => ?_⟩
  · simp only [isPatternSign, Bool.or_eq_true, beq_iff_eq] at hSign
    rcases hSign with (rfl | rfl) | rfl <;> rfl
  · obtain rfl := List.mem_singleton.mp hMem
    by_cases hLower : c.isLower
    · have hUpper : c.toUpper.isUpper := by simp [Char.isAlpha, hLower]
      simp [isUpper_of_isPatternSign hSign] at hUpper
    · rw [Char.toUpper_eq_of_not_isLower hLower] at hSign
      exact hPlain hSign

end Crosstab.Sql
