import Mathlib.Algebra.Order.Field.Basic
import Mathlib.Algebra.Order.Field.Power
import Mathlib.Algebra.Order.Field.Rat
import Mathlib.Tactic.FieldSimp
import Mathlib.Tactic.Linarith
import Mathlib.Tactic.Ring
import Triplet.Proofs.NearestDoubles

/-! # How near the shortest decimal is

The shortest decimal of a double is a point of a grid of powers of ten, and it differs from the
double by no more than half of the last bit. For an integer that is a double by itself, no other
point of a grid of integers is as near, and so its shortest decimal is exact.
-/

namespace Triplet.Decimal

def toRat (d : Decimal) : ℚ :=
  (d.digits * 10 ^ d.exponent.toNat : Nat) / (10 ^ (-d.exponent).toNat : Nat)

theorem zpow_eq (b : Nat) (hb : (b : ℚ) ≠ 0) (e : Int) :
    (b : ℚ) ^ e = (b ^ e.toNat : Nat) / (b ^ (-e).toNat : Nat) := by
  rw [Nat.cast_pow, Nat.cast_pow, eq_div_iff (pow_ne_zero _ hb), ← zpow_natCast, ← zpow_natCast,
    ← zpow_add₀ hb]
  congr 1
  omega

theorem toRat_eq (d : Decimal) : d.toRat = d.digits * (10 : ℚ) ^ d.exponent := by
  have h := zpow_eq 10 (by norm_num) d.exponent
  rw [Nat.cast_ofNat] at h
  rw [toRat, h, Nat.cast_mul, mul_div_assoc]

theorem toRat_strip (fuel : Nat) (d : Decimal) : (d.strip fuel).toRat = d.toRat := by
  induction fuel generalizing d with
  | zero => rfl
  | succ fuel ih =>
    rw [strip]
    split
    · rename_i hd
      have hten : (d.digits : ℚ) = 10 * (d.digits / 10 : Nat) := by
        exact_mod_cast (Nat.mul_div_cancel' (Nat.dvd_of_mod_eq_zero hd.2)).symm
      rw [ih, toRat_eq, toRat_eq, zpow_add_one₀ (by norm_num), hten]
      ring
    · rfl

section Grid

variable {mantissa : Nat} {exponent p : Int} {d : Decimal}

theorem le_low (mantissa : Nat) (exponent : Int) :
    4 * mantissa ≤ (interval mantissa exponent).low + 2 := by
  simp only [interval]
  split <;> omega

theorem eq_of_choice {b c : Bool} {x y d : Decimal}
    (h : (if b then some x else if c then some y else none) = some d) :
    b = true ∧ x = d ∨ c = true ∧ y = d := by
  cases b <;> cases c <;> simp_all

theorem onGrid?_inside (h : onGrid? mantissa exponent p = some d) :
    d.exponent = p ∧
      (interval mantissa exponent).low * (10 ^ (-p).toNat * 2 ^ exponent.toNat) ≤
        4 * d.digits * (10 ^ p.toNat * 2 ^ (-exponent).toNat) ∧
      4 * d.digits * (10 ^ p.toNat * 2 ^ (-exponent).toNat) ≤
        (interval mantissa exponent).high * (10 ^ (-p).toNat * 2 ^ exponent.toNat) := by
  have hinside {low high point : Nat} {closed : Bool}
      (hi : (if closed then decide (low ≤ point) && decide (point ≤ high)
        else decide (low < point) && decide (point < high)) = true) :
      low ≤ point ∧ point ≤ high := by
    cases closed <;> simp at hi <;> omega
  rw [onGrid?] at h
  obtain ⟨hi, hd⟩ | ⟨hi, hd⟩ := eq_of_choice h
  · subst hd
    exact ⟨rfl, hinside hi⟩
  · subst hd
    exact ⟨rfl, hinside hi⟩

/-- An interval of two quarters of a unit on both sides, with the denominators multiplied out. -/
theorem abs_sub_le {n m P Q T S : ℚ} (hQ : 0 < Q) (hS : 0 < S)
    (hl : (4 * m - 2) * (Q * T) ≤ 4 * n * (P * S)) (hh : 4 * n * (P * S) ≤ (4 * m + 2) * (Q * T)) :
    2 * |n * (P / Q) - m * (T / S)| ≤ T / S := by
  have hQS : 0 < Q * S := mul_pos hQ hS
  have hsub : n * (P / Q) - m * (T / S) = (n * (P * S) - m * (Q * T)) / (Q * S) := by
    field_simp
  have hunit : T / S = Q * T / (Q * S) := by
    field_simp
  rw [hsub, hunit, abs_div, abs_of_pos hQS, ← mul_div_assoc, div_le_div_iff_of_pos_right hQS]
  obtain ⟨habs, -⟩ | ⟨habs, -⟩ := abs_cases (n * (P * S) - m * (Q * T))
  · rw [habs]
    linarith
  · rw [habs]
    linarith

theorem onGrid?_near (h : onGrid? mantissa exponent p = some d) :
    2 * |d.toRat - mantissa * (2 : ℚ) ^ exponent| ≤ (2 : ℚ) ^ exponent := by
  obtain ⟨he, hl, hh⟩ := onGrid?_inside h
  have hten := zpow_eq 10 (by norm_num) p
  have htwo := zpow_eq 2 (by norm_num) exponent
  have hlow : (4 * mantissa : ℚ) ≤ (interval mantissa exponent).low + 2 := by
    exact_mod_cast le_low mantissa exponent
  have hpos (b k : Nat) (hb : 0 < b) : (0 : ℚ) < (b ^ k : Nat) :=
    Nat.cast_pos.mpr (Nat.pow_pos hb)
  rw [Nat.cast_ofNat] at hten htwo
  rw [toRat_eq, he, hten, htwo]
  apply abs_sub_le (hpos _ _ (by decide)) (hpos _ _ (by decide))
  · calc (4 * mantissa - 2) * ((10 ^ (-p).toNat : Nat) * (2 ^ exponent.toNat : Nat) : ℚ)
        ≤ (interval mantissa exponent).low *
            ((10 ^ (-p).toNat : Nat) * (2 ^ exponent.toNat : Nat)) :=
          mul_le_mul_of_nonneg_right (by linarith)
            (mul_pos (hpos _ _ (by decide)) (hpos _ _ (by decide))).le
      _ ≤ 4 * d.digits * ((10 ^ p.toNat : Nat) * (2 ^ (-exponent).toNat : Nat)) := by
          exact_mod_cast hl
  · exact_mod_cast hh

/-- The search ends at a point that differs by no more than half of the last bit, or at the number
itself when the number is an integer. -/
theorem search_near (mantissa : Nat) (h : 0 ≤ exponent) (top : Int) (fuel digits : Nat) :
    2 * |(search mantissa exponent top fuel digits).toRat - mantissa * (2 : ℚ) ^ exponent| ≤
      (2 : ℚ) ^ exponent := by
  fun_induction search mantissa exponent top fuel digits with
  | case1 =>
    obtain ⟨e, rfl⟩ := Int.eq_ofNat_of_zero_le h
    simp [toRat_eq]
  | case2 _ _ d hd =>
    rw [toRat_strip]
    exact onGrid?_near hd
  | case3 _ _ _ ih => exact ih

end Grid

/-! ## Small integers

The integer `n` is given as `n · 2 ^ t` times `2 ^ (-t)`. -/

section Small

variable {n t : Nat}

/-- A point of a grid of integers that is as near as half a bit is the integer itself. -/
theorem onGrid?_eq {p : Nat} {d : Decimal} (h : onGrid? (n * 2 ^ t) (-t) p = some d) :
    d.toRat = n := by
  have hnear := onGrid?_near h
  obtain ⟨he, -⟩ := onGrid?_inside h
  have hvalue : ((n * 2 ^ t : Nat) : ℚ) * (2 : ℚ) ^ (-t : Int) = n := by
    rw [zpow_neg, zpow_natCast]
    push_cast
    field_simp
  have hunit : (2 : ℚ) ^ (-t : Int) ≤ 1 := zpow_le_one_of_nonpos₀ (by norm_num) (by omega)
  have hd : d.toRat = ((d.digits * 10 ^ p : Nat) : ℚ) := by
    simp [toRat_eq, he]
  rw [hvalue, hd] at hnear
  rw [hd]
  have habs : |((d.digits * 10 ^ p : Nat) : Int) - (n : Int)| < 1 := by
    rw [← Int.cast_lt (R := ℚ)]
    push_cast at hnear ⊢
    linarith
  have heq := Int.abs_lt_one_iff.mp habs
  have hdigits : d.digits * 10 ^ p = n := by omega
  rw [hdigits]

theorem onGrid?_zero (h : 0 < n) : onGrid? (n * 2 ^ t) (-t) 0 = some ⟨n, 0⟩ := by
  have hpos : 0 < 2 ^ t := Nat.two_pow_pos t
  have hmantissa : 0 < n * 2 ^ t := Nat.mul_pos h hpos
  have ha : 10 ^ (0 : Int).toNat * 2 ^ (- -(t : Int)).toNat = 2 ^ t := by
    simp
  have hb : 10 ^ (-0 : Int).toNat * 2 ^ (-(t : Int)).toNat = 1 := by
    simp
  have hnear : 2 * (n * 2 ^ t) < (n + (n + 1)) * 2 ^ t := by
    rw [← Nat.mul_assoc]
    exact Nat.mul_lt_mul_of_pos_right (by omega) hpos
  simp only [onGrid?, Nat.pow_eq, ha, hb, Nat.mul_one, Nat.mul_div_cancel n hpos, if_pos hnear]
  refine if_pos ?_
  have hlow : (interval (n * 2 ^ t) (-t)).low < 4 * (n * 2 ^ t) := by
    simp only [interval]
    split <;> omega
  have hhigh : 4 * (n * 2 ^ t) < (interval (n * 2 ^ t) (-t)).high :=
    Nat.lt_add_of_pos_right Nat.two_pos
  rw [Nat.mul_assoc]
  split <;> simp only [Bool.and_eq_true, decide_eq_true_eq] <;> omega

theorem search_eq (h : 0 < n) {top : Int} {p fuel digits : Nat} (hp : top - digits + 1 = p)
    (hf : p < fuel) : (search (n * 2 ^ t) (-t) top fuel digits).toRat = n := by
  fun_induction search (n * 2 ^ t) (-t) top fuel digits generalizing p with
  | case1 => omega
  | case2 _ _ d hd =>
    rw [hp] at hd
    rw [toRat_strip]
    exact onGrid?_eq hd
  | case3 _ digits hd ih =>
    obtain _ | p := p
    · rw [hp] at hd
      cases (onGrid?_zero h).symm.trans hd
    · exact ih (p := p) (by omega) (by omega)

theorem log2_mul_pow (h : 0 < n) : (n * 2 ^ t).log2 = n.log2 + t := by
  have hpos : 0 < 2 ^ t := Nat.two_pow_pos t
  refine (Nat.log2_eq_iff (Nat.mul_pos h hpos).ne').mpr ⟨?_, ?_⟩
  · rw [Nat.pow_add]
    exact Nat.mul_le_mul_right _ (Nat.log2_self_le h.ne')
  · rw [Nat.add_right_comm, Nat.pow_add]
    exact Nat.mul_lt_mul_of_pos_right Nat.lt_log2_self hpos

theorem leading_mem (h : 0 < n) (hl : n.log2 ≤ 52) :
    0 ≤ leading (n * 2 ^ t) (-t) ∧ leading (n * 2 ^ t) (-t) ≤ 16 := by
  have hguess : ((n * 2 ^ t).log2 : Int) + -t = n.log2 := by
    rw [log2_mul_pow h]
    omega
  have hdiv : ((n.log2 : Int) * 30103).fdiv 100000 = ((n.log2 * 30103 / 100000 : Nat) : Int) := by
    rw [Int.fdiv_eq_ediv_of_nonneg _ (by decide)]
    rfl
  simp only [leading, hguess, hdiv]
  generalize hk : n.log2 * 30103 / 100000 = k
  have hk' : k ≤ 15 := by omega
  obtain _ | k := k
  · rw [if_neg (by simpa using h.ne')]
    split <;> omega
  · split
    · omega
    · split <;> omega

theorem shortest_eq (h : 0 < n) (hl : n.log2 ≤ 52) (negative : Bool) :
    (shortest ⟨negative, n * 2 ^ t, -t⟩).toRat = n := by
  obtain ⟨hlow, hhigh⟩ := leading_mem (t := t) h hl
  obtain ⟨p, hp⟩ := Int.eq_ofNat_of_zero_le hlow
  rw [shortest, hp]
  exact search_eq h (p := p) (by omega) (by omega)

end Small

/-! ## Integers -/

section Integer

variable {n : Int}

theorem shortest_nearest (h : n ≠ 0) (hl : n.natAbs < 2 ^ 53) :
    (shortest (Dyadic.nearest n)).toRat = n.natAbs := by
  have hlog : n.natAbs.log2 < 53 := Dyadic.log2_lt_of_lt (by decide) hl
  have hexponent : (n.natAbs.log2 : Int) - 52 = -(52 - n.natAbs.log2 : Nat) := by omega
  rw [Dyadic.nearest_of_lt hl, hexponent]
  exact shortest_eq (by omega) (by omega) _

theorem shortest_nearest_near (h : 2 ^ 53 ≤ n.natAbs) :
    (2 ^ 51 : Nat) * |(shortest (Dyadic.nearest n)).toRat - n.natAbs| ≤ n.natAbs := by
  have h51 : ((2 ^ 51 : Nat) : ℚ) = 2251799813685248 := by norm_num
  obtain ⟨e, b, he, hb, hunit, hl, hh⟩ := Dyadic.nearest_of_le h
  have hnear := search_near (Dyadic.nearest n).mantissa
    (show 0 ≤ (Dyadic.nearest n).exponent by omega)
    (leading (Dyadic.nearest n).mantissa (Dyadic.nearest n).exponent) 17 1
  rw [← shortest, he, zpow_natCast] at hnear
  have hb' : (4503599627370496 * b : ℚ) ≤ n.natAbs := by
    exact_mod_cast hb
  have hunit' : (2 : ℚ) ^ e ≤ 2 * b := by
    exact_mod_cast hunit
  have hl' : (2 * n.natAbs : ℚ) ≤ 2 * ((Dyadic.nearest n).mantissa * 2 ^ e) + b := by
    exact_mod_cast hl
  have hh' : (2 * ((Dyadic.nearest n).mantissa * 2 ^ e) : ℚ) ≤ 2 * n.natAbs + b := by
    exact_mod_cast hh
  -- One bit for the decimal and half of one for the double.
  have hsum : |(shortest (Dyadic.nearest n)).toRat - n.natAbs| ≤ 3 / 2 * b := by
    obtain ⟨hlow, hhigh⟩ := abs_le.mp (show |(shortest (Dyadic.nearest n)).toRat -
      (Dyadic.nearest n).mantissa * 2 ^ e| ≤ b by linarith)
    exact abs_le.mpr ⟨by linarith, by linarith⟩
  rw [h51]
  linarith

end Integer

end Triplet.Decimal
