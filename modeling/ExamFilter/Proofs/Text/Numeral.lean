import ExamFilter.Text.Blank
import ExamFilter.Text.Letter
import ExamFilter.Text.Numeral
import Mathlib.Algebra.Group.Nat.Defs

/-!
# Digits

The digits of numbers of a fixed width, and the values of decimal digits: those of ASCII have the
values that one expects, and no digit of any script is white space.
-/
namespace ExamFilter.Text

theorem toList_padded (width n : Nat) :
    (padded width n).toList =
      List.replicate (width - (Nat.toDigits 10 n).length) '0' ++ Nat.toDigits 10 n := by
  simp [padded]

theorem isDigit_of_mem_padded {width n : Nat} {c : Char} (h : c ∈ (padded width n).toList) :
    c.isDigit = true := by
  rw [toList_padded, List.mem_append] at h
  rcases h with hzero | hdigit
  · rw [List.eq_of_mem_replicate hzero]
    rfl
  · exact Nat.isDigit_of_mem_toDigits (by decide) (by decide) hdigit

theorem length_padded {width n : Nat} (hwidth : 0 < width) (h : n < 10 ^ width) :
    (padded width n).toList.length = width := by
  have hle := (Nat.length_toDigits_le_iff (by decide) hwidth).2 h
  rw [toList_padded, List.length_append, List.length_replicate]
  omega

/-- The zeros on the left do not change the number. -/
theorem ofDigitChars_padded (width n : Nat) :
    Nat.ofDigitChars 10 (padded width n).toList 0 = n := by
  rw [toList_padded, Nat.ofDigitChars_append, Nat.ofDigitChars_replicate_zero, Nat.mul_zero,
    Nat.ofDigitChars_ten_toDigits]

theorem digitValue?_of_isDigit {c : Char} (h : c.isDigit = true) :
    digitValue? c = some (c.toNat - '0'.toNat) := by
  have hbounds : 48 ≤ c.toNat ∧ c.toNat < 58 := by
    simp [Char.isDigit_iff_toNat] at h
    omega
  rw [digitValue?, decimalZeros, List.find?_cons_of_pos]
  · rfl
  · simp
    omega

theorem isDecimalDigit_of_isDigit {c : Char} (h : c.isDigit = true) : isDecimalDigit c = true := by
  rw [isDecimalDigit, digitValue?_of_isDigit h]
  rfl

theorem isBlank_of_isDecimalDigit {c : Char} (h : isDecimalDigit c = true) : isBlank c = false := by
  obtain ⟨v, hv⟩ := Option.isSome_iff_exists.1 h
  obtain ⟨z, hz, -⟩ := Option.map_eq_some_iff.1 hv
  have hmem := List.mem_of_find?_eq_some hz
  have hbounds := List.find?_some hz
  have hall : ∀ z ∈ decimalZeros, ∀ i < 10, inBounds blankBounds (z + i) = false := by
    decide +kernel
  simp at hbounds
  have := hall z hmem (c.toNat - z) (by omega)
  rw [isBlank, ← this]
  congr 1
  omega

end ExamFilter.Text
