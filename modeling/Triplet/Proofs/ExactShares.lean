import Mathlib.Algebra.Order.Field.Rat
import Mathlib.Tactic.Linarith
import Triplet.Usage.Tally

/-! # Shares in exact fractions

Computed in fractions, a quotient of counts is the quotient. A part of nothing is none, as division
by zero has it, and a part that is no more than the whole has a share between zero and one, or
between zero and one hundred in percent. The gap of two numbers is the absolute difference.
-/

namespace Triplet

theorem ofCount_eq (n : Nat) : (ofCount n : ℚ) = n := by
  have h : (ofCount n : ℚ) = Rat.ofScientific n false 0 := rfl
  rw [h, Rat.ofScientific_false_def]
  simp

theorem decimal_zero : (0.0 : ℚ) = 0 := by decide +kernel

theorem decimal_one : (1.0 : ℚ) = 1 := by decide +kernel

theorem decimal_hundred : (100.0 : ℚ) = 100 := by decide +kernel

section Ratio

variable (part whole : Nat)

theorem ratio_eq_div : (ratio part whole : ℚ) = part / whole := by
  unfold ratio
  split <;> simp [ofCount_eq, decimal_zero, *]

theorem zero_le_ratio : 0 ≤ (ratio part whole : ℚ) := by
  rw [ratio_eq_div]
  exact div_nonneg (Nat.cast_nonneg part) (Nat.cast_nonneg whole)

variable {part whole}

theorem ratio_le_one (h : part ≤ whole) : (ratio part whole : ℚ) ≤ 1 := by
  rw [ratio_eq_div]
  exact div_le_one_of_le₀ (Nat.cast_le.mpr h) (Nat.cast_nonneg whole)

theorem ratio_eq_one_iff : (ratio part whole : ℚ) = 1 ↔ whole ≠ 0 ∧ part = whole := by
  rw [ratio_eq_div]
  by_cases h : whole = 0
  · simp [h]
  · rw [div_eq_one_iff_eq (Nat.cast_ne_zero.mpr h), Nat.cast_inj]
    simp [h]

theorem ratio_eq_zero_iff : (ratio part whole : ℚ) = 0 ↔ part = 0 ∨ whole = 0 := by
  rw [ratio_eq_div, div_eq_zero_iff, Nat.cast_eq_zero, Nat.cast_eq_zero]

end Ratio

section Percent

variable (part whole : Nat)

theorem percent_eq : (percent part whole : ℚ) = part / whole * 100 := by
  rw [percent, ratio_eq_div, decimal_hundred]

theorem percent_add (other : Nat) :
    (percent (part + other) whole : ℚ) = percent part whole + percent other whole := by
  rw [percent_eq, percent_eq, percent_eq, Nat.cast_add, add_div, add_mul]

theorem zero_le_percent : 0 ≤ (percent part whole : ℚ) := by
  rw [percent, decimal_hundred]
  exact mul_nonneg (zero_le_ratio part whole) (by decide +kernel)

theorem percent_le_hundred {part whole : Nat} (h : part ≤ whole) :
    (percent part whole : ℚ) ≤ 100 := by
  rw [percent, decimal_hundred]
  have hle := ratio_le_one h
  linarith

end Percent

theorem gap_eq (x y : ℚ) : gap x y = |x - y| := by
  unfold gap
  split
  · rw [abs_of_neg (sub_neg.mpr ‹_›), neg_sub]
  · rw [abs_of_nonneg (sub_nonneg.mpr (le_of_not_gt ‹_›))]

end Triplet
