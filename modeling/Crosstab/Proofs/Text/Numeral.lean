import Crosstab.Text.Digit
import Mathlib.Algebra.Group.Nat.Defs
import Mathlib.Data.List.Induction

/-!
Numbers in ASCII digits. In a field of a given width every number that fits is written in one way,
with zeros in front, and every run of that many digits is a number written so.
-/

namespace Crosstab.Text

theorem isAsciiDigit_iff {c : Char} : isAsciiDigit c ↔ 48 ≤ c.toNat ∧ c.toNat ≤ 57 := by
  simp [isAsciiDigit, Char.le_def, UInt32.le_iff_toNat_le]

/-- Of the ASCII characters just these are digits of any script. -/
theorem isDecimalDigit_iff_of_ascii {c : Char} (h : c.toNat < 128) :
    isDecimalDigit c ↔ isAsciiDigit c := by
  have hTable : ∀ n < 128, spansHold decimalDigitSpans n ↔ 48 ≤ n ∧ n ≤ 57 := by decide +kernel
  rw [isDecimalDigit, isAsciiDigit_iff, hTable c.toNat h]

theorem lt_of_isAsciiDigit {c : Char} (h : isAsciiDigit c) : c.toNat < 128 := by
  have := isAsciiDigit_iff.mp h
  omega

/-- A number in a field of so many digits, with zeros in front. -/
def padded : Nat → Nat → List Char
  | 0, _ => []
  | width + 1, n => padded width (n / 10) ++ [Nat.digitChar (n % 10)]

theorem length_padded (width n : Nat) : (padded width n).length = width := by
  induction width generalizing n with
  | zero => rfl
  | succ width ih => rw [padded, List.length_append, ih, List.length_singleton]

theorem isAsciiDigit_digitChar {n : Nat} (h : n < 10) : isAsciiDigit (Nat.digitChar n) := by
  rw [isAsciiDigit_iff, Nat.toNat_digitChar_of_lt_ten h]
  omega

theorem isAsciiDigit_of_mem_padded {width n : Nat} {c : Char} (h : c ∈ padded width n) :
    isAsciiDigit c := by
  induction width generalizing n with
  | zero => cases h
  | succ width ih =>
      rw [padded, List.mem_append, List.mem_singleton] at h
      rcases h with hFront | rfl
      · exact ih hFront
      · exact isAsciiDigit_digitChar (Nat.mod_lt n (by decide))

/-- A last digit counts once, and those before it ten times as much. -/
theorem natOfDigits_append_singleton (cs : List Char) (c : Char) :
    natOfDigits (cs ++ [c]) = 10 * natOfDigits cs + digitValue c := by
  rw [natOfDigits, List.foldl_append]
  rfl

theorem digitValue_lt {c : Char} (h : isAsciiDigit c) : digitValue c < 10 := by
  have := isAsciiDigit_iff.mp h
  rw [digitValue]
  omega

/-- A digit is the character of its value. -/
theorem digitChar_digitValue {c : Char} (h : isAsciiDigit c) :
    Nat.digitChar (digitValue c) = c := by
  rw [← Char.toNat_inj, Nat.toNat_digitChar_of_lt_ten (digitValue_lt h), digitValue]
  have := isAsciiDigit_iff.mp h
  omega

/-- A number that fits is read from its field. -/
theorem natOfDigits_padded {width n : Nat} (h : n < 10 ^ width) :
    natOfDigits (padded width n) = n := by
  induction width generalizing n with
  | zero =>
      rw [Nat.pow_zero, Nat.lt_one_iff] at h
      exact h.symm
  | succ width ih =>
      have hFront : n / 10 < 10 ^ width := by
        rw [Nat.pow_succ] at h
        omega
      rw [padded, natOfDigits_append_singleton, ih hFront, digitValue,
        Nat.toNat_digitChar_of_lt_ten (Nat.mod_lt n (by decide))]
      omega

/-- A run of digits is the field of the number that it denotes. -/
theorem padded_natOfDigits {cs : List Char} (h : ∀ c ∈ cs, isAsciiDigit c) :
    padded cs.length (natOfDigits cs) = cs := by
  induction cs using List.reverseRecOn with
  | nil => rfl
  | append_singleton cs c ih =>
      have hLast : isAsciiDigit c := h c (by simp)
      have hDigit := digitValue_lt hLast
      have hFront : (10 * natOfDigits cs + digitValue c) / 10 = natOfDigits cs := by omega
      have hMod : (10 * natOfDigits cs + digitValue c) % 10 = digitValue c := by omega
      have hDigits := ih fun d hMem => h d (List.mem_append_left _ hMem)
      calc padded (cs ++ [c]).length (natOfDigits (cs ++ [c]))
        _ = padded (cs.length + 1) (10 * natOfDigits cs + digitValue c) := by
            rw [List.length_append, List.length_singleton, natOfDigits_append_singleton]
        _ = padded cs.length (natOfDigits cs) ++ [Nat.digitChar (digitValue c)] := by
            rw [padded, hFront, hMod]
        _ = cs ++ [c] := by rw [hDigits, digitChar_digitValue hLast]

/-- A number has no more digits than it is written with. -/
theorem natOfDigits_lt {cs : List Char} (h : ∀ c ∈ cs, isAsciiDigit c) :
    natOfDigits cs < 10 ^ cs.length := by
  induction cs using List.reverseRecOn with
  | nil => decide
  | append_singleton cs c ih =>
      have hDigit := digitValue_lt (h c (by simp))
      have hFront := ih fun d hMem => h d (List.mem_append_left _ hMem)
      calc natOfDigits (cs ++ [c])
        _ = 10 * natOfDigits cs + digitValue c := natOfDigits_append_singleton cs c
        _ < 10 * (natOfDigits cs + 1) := by omega
        _ ≤ 10 * 10 ^ cs.length := Nat.mul_le_mul_left 10 hFront
        _ = 10 ^ (cs ++ [c]).length := by
            rw [List.length_append, List.length_singleton, Nat.pow_succ, Nat.mul_comm]

end Crosstab.Text
