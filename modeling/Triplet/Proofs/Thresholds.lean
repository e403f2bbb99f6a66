import Mathlib.Algebra.Order.Field.Rat
import Mathlib.Order.Compare
import Triplet.Proofs.Products
import Triplet.Similarity.Basic

/-! # Thresholds

A number has an exact value, unless it is a double that is infinite or no number at all. It is by
this value that a number is compared with an integer, and so every number from zero to one can be
the threshold of a comparison.
-/

namespace Triplet

namespace Dyadic

def signed (d : Dyadic) : Int := if d.negative then -d.numerator else d.numerator

def toRat (d : Dyadic) : ℚ := d.signed / d.denominator

variable (n : Int) (d : Dyadic)

theorem denominator_pos : (0 : ℚ) < d.denominator := by
  have h : 0 < d.denominator := Nat.two_pow_pos _
  exact Nat.cast_pos.mpr h

theorem compareInt_eq : d.compareInt n = compare (n * d.denominator) d.signed := rfl

theorem compareInt_eq_lt_iff : d.compareInt n = .lt ↔ (n : ℚ) < d.toRat := by
  rw [compareInt_eq, compare_lt_iff_lt, toRat, lt_div_iff₀ d.denominator_pos]
  norm_cast

theorem compareInt_eq_gt_iff : d.compareInt n = .gt ↔ d.toRat < n := by
  rw [compareInt_eq, compare_gt_iff_gt, toRat, div_lt_iff₀ d.denominator_pos]
  norm_cast

end Dyadic

section Doubles

open Float.Model

theorem compare_self_of_isFinite {u : UnpackedFloat} (h : u.isFinite = true) :
    u.compare u = some .eq := by
  cases u with
  | notANumber => cases h
  | infinity s => cases h
  | zero s => rfl
  | finite s m e hm =>
    have hc : (compare e e).then (compare m m) = .eq := by simp
    cases s with
    | positive => exact congrArg some hc
    | negative => exact congrArg (fun o => some o.swap) hc

end Doubles

namespace Number

/-- The exact value of a number; a double that is not finite has none. -/
def rational? : Number → Option ℚ
  | int n => some n
  | real x => (Dyadic.ofFloat? x).map Dyadic.toRat

variable {n : Number} {q : ℚ}

theorem compare?_int (h : n.rational? = some q) (k : Int) :
    (n.compare? (.int k) = some .lt ↔ q < k) ∧ (compare? (.int k) n = some .lt ↔ (k : ℚ) < q) := by
  cases n with
  | int m =>
    obtain rfl : (m : ℚ) = q := Option.some.inj h
    simp only [compare?, Option.some.injEq, compare_lt_iff_lt]
    exact ⟨Rat.intCast_lt_intCast.symm, Rat.intCast_lt_intCast.symm⟩
  | real x =>
    obtain ⟨d, hd, rfl⟩ := Option.map_eq_some_iff.mp h
    have hc : compareIntDouble k x = some (d.compareInt k) := by rw [compareIntDouble, hd]
    rw [compare?, compare?, hc, Option.map_some, Option.some.injEq, Option.some.injEq,
      Ordering.swap_eq_lt, Dyadic.compareInt_eq_gt_iff, Dyadic.compareInt_eq_lt_iff]
    exact ⟨.rfl, .rfl⟩

theorem equal_self (h : n.rational? = some q) : n.equal n = true := by
  cases n with
  | int m => simp [equal, compare?]
  | real x =>
    obtain ⟨d, hd, -⟩ := Option.map_eq_some_iff.mp h
    have hf : x.isFinite = true := by rw [← Dyadic.isSome_ofFloat?, hd]; rfl
    have hc := compare_self_of_isFinite hf
    have hlt : ¬ x < x := by
      rw [lt_iff]
      change ¬ (x.toModel.unpack.compare x.toModel.unpack == some .lt) = true
      rw [hc]
      decide
    have heq : (x == x) = true := by
      change (x.toModel.unpack.compare x.toModel.unpack == some .eq) = true
      rw [hc]
      rfl
    rw [equal, compare?, if_neg hlt, if_neg hlt, if_pos heq]
    rfl

end Number

theorem readThreshold_eq {v : Value} {n : Number} (h : v.toNumber = .ok n) :
    readThreshold v =
      if !n.less (.int 0) && !Number.less (.int 1) n && n.equal n then
        n.toDouble >>= fun t => .ok (.ok t)
      else .ok (.error ⟨v⟩) := by
  rw [readThreshold, h]
  rfl

theorem readThreshold_of_rational {v : Value} {n : Number} {q : ℚ} (hv : v.toNumber = .ok n)
    (hq : n.rational? = some q) (hlow : 0 ≤ q) (hhigh : q ≤ 1) :
    ∃ t, readThreshold v = .ok (.ok t) ∧ (Number.real t).rational? = some q := by
  have hzero : n.less (.int 0) = false := by
    have h := (Number.compare?_int hq 0).1
    simpa [Number.less, h] using hlow
  have hone : Number.less (.int 1) n = false := by
    have h := (Number.compare?_int hq 1).2
    simpa [Number.less, h] using hhigh
  rw [readThreshold_eq hv, hzero, hone, Number.equal_self hq]
  cases n with
  | real x => exact ⟨x, rfl, hq⟩
  | int m =>
    obtain rfl : (m : ℚ) = q := Option.some.inj hq
    -- There are but two integers to round, and both are doubles.
    have hm : m = 0 ∨ m = 1 := by
      have h0 : 0 ≤ m := by exact_mod_cast hlow
      have h1 : m ≤ 1 := by exact_mod_cast hhigh
      omega
    have hf : (nearestDouble m).isFinite = true := by
      rcases hm with rfl | rfl <;> decide +kernel
    have hd : (Number.int m).toDouble = .ok (nearestDouble m) := if_pos hf
    refine ⟨nearestDouble m, by rw [hd]; rfl, ?_⟩
    rcases hm with rfl | rfl <;> decide +kernel

end Triplet
