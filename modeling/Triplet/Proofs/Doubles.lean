import Mathlib.Algebra.Group.Nat.Defs
import Triplet.Value

/-! # Finite doubles

A double is finite exactly if its exponent field is not all ones. So a finite double has an exact
value, a double that equals zero has the value zero, and every natural number below the largest
power of two that a double can hold rounds to a finite one.
-/

namespace Triplet

open Float.Model UnpackedFloat

def exponentField (bits : Nat) : Nat := bits / 2 ^ 52 % 2 ^ 11

section Bits

variable {b : BitVec Format.binary64.numBits} {u : UnpackedFloat}

theorem toNat_unpackExponent : (unpackExponent b).toNat = exponentField b.toNat := by
  simp [unpackExponent, exponentField, Nat.shiftRight_eq_div_pow]

theorem toNat_unpackMantissa : (unpackMantissa b).toNat = b.toNat % 2 ^ 52 := by
  simp [unpackMantissa]

theorem unpackExponent_eq_ones_iff : unpackExponent b = -1#11 ↔ exponentField b.toNat = 2047 := by
  rw [← BitVec.toNat_inj, toNat_unpackExponent]
  rfl

/-- What the bits of a double can stand for. -/
inductive Stands (b : BitVec Format.binary64.numBits) : UnpackedFloat → Prop where
  | special {u : UnpackedFloat} : unpackExponent b = -1#11 → u.isFinite = false → Stands b u
  | zero (s : Sign) : unpackExponent b = 0#11 → unpackMantissa b = 0#52 → Stands b (.zero s)
  | finite (s : Sign) {m : Nat} {e : Int} (h : 0 < m) :
      unpackExponent b ≠ -1#11 → e ≤ 971 → Stands b (.finite s m e h)

theorem stands_unpack (b : BitVec Format.binary64.numBits) :
    Stands b (UnpackedFloat.unpack Format.binary64 b) := by
  have hlt := (unpackExponent b).isLt
  unfold UnpackedFloat.unpack
  by_cases he : unpackExponent b = -1#_
  · rw [if_pos he]
    refine .special he ?_
    split <;> rfl
  have hn : (unpackExponent b).toNat ≠ 2047 := fun hn => he (BitVec.eq_of_toNat_eq hn)
  by_cases hz : unpackExponent b = 0#_
  · rw [if_neg he, if_pos hz]
    by_cases hm : unpackMantissa b = 0#_
    · rw [dif_pos hm]
      exact .zero _ hz hm
    · rw [dif_neg hm]
      refine .finite _ _ he ?_
      rw [hz]
      decide
  · rw [if_neg he, if_neg hz]
    refine .finite _ _ he ?_
    simp [Format.exponentBias] at hlt ⊢
    omega

theorem Stands.isFinite_iff (h : Stands b u) :
    u.isFinite = true ↔ unpackExponent b ≠ -1#11 := by
  cases h with
  | special he hf =>
    rw [he, hf]
    decide
  | zero s he =>
    rw [he]
    exact iff_of_true rfl (by decide)
  | finite s h he => exact iff_of_true rfl he

/-- The bits of a finite number. They are those of an infinity if the exponent is too large, and
they have no exponent if the mantissa has less than 53 bits. -/
theorem pack_finite (s : Sign) (m : Nat) (e : Int) (h : 0 < m) :
    UnpackedFloat.pack Format.binary64 (.finite s m e h) =
      if 2 ^ 11 ≤ (e + 1023 + 52).toNat + 1 then packedInfinity Format.binary64 s
      else if m.log2 + 1 = 53 then
        packComponents Format.binary64 s (BitVec.ofNat 11 (e + 1023 + 52).toNat) (BitVec.ofNat 52 m)
      else packComponents Format.binary64 s 0#11 (BitVec.ofNat 52 m) := rfl

theorem ofNat_ne_ones {k : Nat} (h : ¬ 2 ^ 11 ≤ k + 1) : BitVec.ofNat 11 k ≠ -1#11 := by
  have hk : k < 2047 := by
    simp only [Nat.reducePow] at h
    omega
  rw [ne_eq, ← BitVec.toNat_inj, BitVec.toNat_ofNat, Nat.mod_eq_of_lt (by simp; omega)]
  exact Nat.ne_of_lt hk

theorem unpackExponent_pack {s : Sign} {m : Nat} {e : Int} {h : 0 < m} (he : e ≤ 971) :
    unpackExponent (UnpackedFloat.pack Format.binary64 (.finite s m e h)) ≠ -1#11 := by
  have hb : ¬ 2 ^ 11 ≤ (e + 1023 + 52).toNat + 1 := by
    simp only [Nat.reducePow]
    omega
  rw [pack_finite, if_neg hb]
  split
  · rw [unpackExponent_packComponents]
    exact ofNat_ne_ones hb
  · rw [unpackExponent_packComponents]
    decide

theorem Stands.unpackExponent_pack (h : Stands b u) (hu : u.isFinite = true) :
    unpackExponent (UnpackedFloat.pack Format.binary64 u) ≠ -1#11 := by
  cases h with
  | special _ hf => simp [hf] at hu
  | zero =>
    change unpackExponent (packComponents Format.binary64 _ 0 0) ≠ _
    rw [unpackExponent_packComponents]
    decide
  | finite _ _ _ hle => exact Triplet.unpackExponent_pack hle

theorem eq_zero_of_beq {s : Sign} (h : u.beq (.zero s) = true) : ∃ s', u = .zero s' := by
  cases u with
  | zero s' => exact ⟨s', rfl⟩
  | notANumber => cases h
  | infinity s' => cases s' <;> cases h
  | finite s' => cases s' <;> cases h

end Bits

theorem isFinite_iff (x : Float) : x.isFinite = true ↔ exponentField x.toBits.toNat ≠ 2047 :=
  (stands_unpack x.toBits.toBitVec).isFinite_iff.trans (not_congr unpackExponent_eq_ones_iff)

theorem isFinite_ofBits {bits : UInt64} (h : exponentField bits.toNat ≠ 2047) :
    (Float.ofBits bits).isFinite = true := by
  have hs := stands_unpack bits.toBitVec
  have hf := hs.isFinite_iff.mpr (mt unpackExponent_eq_ones_iff.mp h)
  exact (stands_unpack _).isFinite_iff.mpr (hs.unpackExponent_pack hf)

theorem roundDiv_le_of_lt {a b k : Nat} (h : a < k * b) : roundDiv a b ≤ k := by
  have hq : a / b < k := Nat.div_lt_of_lt_mul (Nat.mul_comm k b ▸ h)
  simp only [roundDiv]
  split
  · omega
  · split <;> omega

namespace Dyadic

theorem isSome_ofFloat? (x : Float) : (ofFloat? x).isSome = x.isFinite := by
  rw [Bool.eq_iff_iff, isFinite_iff, exponentField]
  simp only [ofFloat?]
  split
  · simp [*]
  · split <;> simp [*]

theorem ofFloat?_of_beq_zero {x : Float} (h : (x == 0) = true) :
    ∃ negative, ofFloat? x = some ⟨negative, 0, -1074⟩ := by
  have hz : x.toModel.unpack.beq (.zero .positive) = true := h
  obtain ⟨s, hu⟩ := eq_zero_of_beq hz
  have hs := stands_unpack x.toBits.toBitVec
  rw [show UnpackedFloat.unpack Format.binary64 x.toBits.toBitVec = .zero s from hu] at hs
  cases hs with
  | special _ hf => cases hf
  | zero _ he hm =>
    have he' : exponentField x.toBits.toNat = 0 :=
      toNat_unpackExponent.symm.trans (congrArg BitVec.toNat he)
    have hm' : x.toBits.toNat % 2 ^ 52 = 0 :=
      toNat_unpackMantissa.symm.trans (congrArg BitVec.toNat hm)
    simp only [exponentField, Nat.reducePow] at he' hm'
    exact ⟨decide (2 ^ 63 ≤ x.toBits.toNat), by simp [ofFloat?, he', hm']⟩

theorem compareInt_zero (negative : Bool) (e : Int) : compareInt 0 ⟨negative, 0, e⟩ = .eq := by
  simp [compareInt, numerator]

theorem scaled_lt {num : Nat} {e : Int} (h : (num.log2 : Int) - 52 ≤ e) :
    num * 2 ^ (-e).toNat < 2 ^ 53 * 2 ^ e.toNat := by
  have hnum : num < 2 ^ (num.log2 + 1) := Nat.lt_log2_self
  have hpos : 0 < 2 ^ (-e).toNat := Nat.two_pow_pos _
  calc num * 2 ^ (-e).toNat
      < 2 ^ (num.log2 + 1) * 2 ^ (-e).toNat := Nat.mul_lt_mul_of_pos_right hnum hpos
    _ = 2 ^ (num.log2 + 1 + (-e).toNat) := (Nat.pow_add ..).symm
    _ ≤ 2 ^ (53 + e.toNat) := Nat.pow_le_pow_right Nat.two_pos (by omega)
    _ = 2 ^ 53 * 2 ^ e.toNat := Nat.pow_add ..

/-- The bits of an integer whose leading bit is not too high are those of a finite double. -/
theorem nearestBits_lt {num : Nat} (h : num.log2 < 1023) :
    nearestBits num 1 < 2047 * 2 ^ 52 := by
  by_cases hz : num = 0
  · simp [nearestBits, hz]
  have hone : Nat.log2 1 = 0 := by decide
  simp only [nearestBits, if_neg hz, hone, Nat.one_mul]
  generalize hg : max ((num.log2 : Int) - (0 : Nat) - 53) (-1074) = guess
  generalize he : (if 2 ^ 53 * 2 ^ guess.toNat ≤ num * 2 ^ (-guess).toNat then
    guess + 1 else guess) = e
  have hle : e ≤ 970 := by split at he <;> omega
  -- The exponent is chosen so that the mantissa before rounding has at most 53 bits.
  have hm : roundDiv (num * 2 ^ (-e).toNat) (2 ^ e.toNat) ≤ 2 ^ 53 := by
    refine roundDiv_le_of_lt ?_
    split at he
    · exact scaled_lt (by omega)
    · exact he ▸ Nat.lt_of_not_le ‹_›
  generalize roundDiv (num * 2 ^ (-e).toNat) (2 ^ e.toNat) = mantissa at hm
  have hb : (e + 1075).toNat ≤ 2045 := by omega
  refine Nat.lt_of_le_of_lt (Nat.min_le_left _ _) ?_
  simp only [Nat.pow_eq, Nat.reducePow] at hm ⊢
  split <;> omega

theorem log2_lt_of_lt {n k : Nat} (hk : 0 < k) (h : n < 2 ^ k) : n.log2 < k := by
  by_cases hz : n = 0
  · rwa [hz, Nat.log2_zero]
  · exact (Nat.log2_lt hz).mpr h

end Dyadic

namespace Number

theorem isFinite_int_of_lt {n : Nat} (h : n < 2 ^ 1023) : (int n).isFinite = true := by
  have hb := Dyadic.nearestBits_lt (Dyadic.log2_lt_of_lt (by decide) h)
  have hs : ¬ (n : Int) < 0 := by omega
  simp only [isFinite, nearestDouble, Dyadic.ofRatio, hs, Int.natAbs_natCast]
  refine isFinite_ofBits ?_
  simp only [exponentField, Nat.pow_eq, Nat.reducePow] at hb ⊢
  simp [Nat.toUInt64]
  omega

theorem truncate_of_isFinite {n : Number} (h : n.isFinite = true) : ∃ k, n.truncate = .ok k := by
  cases n with
  | int k => exact ⟨k, rfl⟩
  | real x =>
    have hx : (Dyadic.ofFloat? x).isSome = true := (Dyadic.isSome_ofFloat? x).trans h
    obtain ⟨d, hd⟩ := Option.isSome_iff_exists.mp hx
    exact ⟨d.truncate, by simp only [truncate, hd]⟩

theorem equal_zero_of_isZero {n : Number} (h : n.isZero = true) : n.equal (int 0) = true := by
  cases n with
  | int k =>
    obtain rfl : k = 0 := by simpa [isZero] using h
    decide
  | real x =>
    obtain ⟨negative, hd⟩ := Dyadic.ofFloat?_of_beq_zero h
    have hc : compareIntDouble 0 x = some .eq := by
      simp only [compareIntDouble, hd, Dyadic.compareInt_zero]
    simp only [equal, compare?, hc]
    rfl

end Number

theorem Value.sanitize_int_of_lt {n : Nat} (h : n < 2 ^ 1023) : (int n).sanitize = int n :=
  if_pos (Number.isFinite_int_of_lt h)

end Triplet
