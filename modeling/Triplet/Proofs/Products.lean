import Triplet.Drawing.Surface
import Triplet.Proofs.Doubles

/-! # Signs of products

A product of finite doubles has the product of their signs, also where it is too large and becomes
infinite. An infinite factor stays infinite, unless it meets a zero; and what is not a number stays
so. The least scale is above all doubles with a negative sign.
-/

namespace Triplet

open Float.Model UnpackedFloat

section Unpacked

def signOf : UnpackedFloat → Option Sign
  | .infinity s | .zero s | .finite s .. => some s
  | .notANumber => none

variable {b : BitVec Format.binary64.numBits} {u v : UnpackedFloat} {s t : Sign}

theorem unpackSign_packComponents {spec : Format} (s : Sign) (e : BitVec spec.exponentBits)
    (m : BitVec spec.mantissaBitsWithoutImplicit) :
    unpackSign (packComponents spec s e m) = s.toBitVec := by
  ext i hi
  obtain rfl : i = 0 := by omega
  delta unpackSign
  simp [packComponents, BitVec.getLsbD_append, BitVec.getElem_append]

theorem ofBitVec_toBitVec (s : Sign) : Sign.ofBitVec s.toBitVec = s := by
  cases s <;> rfl

theorem signOf_unpack (h : unpackExponent b ≠ -1#11) :
    signOf (UnpackedFloat.unpack Format.binary64 b) = some (Sign.ofBitVec (unpackSign b)) := by
  unfold UnpackedFloat.unpack
  rw [if_neg h]
  by_cases hz : unpackExponent b = 0#_
  · rw [if_pos hz]
    by_cases hm : unpackMantissa b = 0#_
    · rw [dif_pos hm]
      rfl
    · rw [dif_neg hm]
      rfl
  · rw [if_neg hz]
    rfl

theorem signOf_unpack_packComponents (s : Sign) {e : BitVec 11} (m : BitVec 52)
    (he : e ≠ -1#11) :
    signOf (UnpackedFloat.unpack Format.binary64 (packComponents Format.binary64 s e m)) =
      some s := by
  have hn : unpackExponent (packComponents Format.binary64 s e m) ≠ -1#11 := by
    rwa [unpackExponent_packComponents]
  rw [signOf_unpack hn, unpackSign_packComponents, ofBitVec_toBitVec]

theorem unpack_packedInfinity (s : Sign) :
    UnpackedFloat.unpack Format.binary64 (packedInfinity Format.binary64 s) = .infinity s := by
  cases s <;> rfl

theorem unpack_packedNaN :
    UnpackedFloat.unpack Format.binary64 (packedNaN Format.binary64) = .notANumber := rfl

/-- Bits keep the sign, although a number that is too large becomes infinite in them. -/
theorem signOf_unpack_pack (u : UnpackedFloat) :
    signOf (UnpackedFloat.unpack Format.binary64 (UnpackedFloat.pack Format.binary64 u)) =
      signOf u := by
  cases u with
  | notANumber => rfl
  | infinity s => exact congrArg signOf (unpack_packedInfinity s)
  | zero s => exact signOf_unpack_packComponents s 0#52 (by decide)
  | finite s m e h =>
    rw [pack_finite]
    by_cases hb : 2 ^ 11 ≤ (e + 1023 + 52).toNat + 1
    · rw [if_pos hb, unpack_packedInfinity]
      rfl
    rw [if_neg hb]
    by_cases hm : m.log2 + 1 = 53
    · rw [if_pos hm]
      exact signOf_unpack_packComponents s _ (ofNat_ne_ones hb)
    · rw [if_neg hm]
      exact signOf_unpack_packComponents s _ (by decide)

theorem signOf_zero_or_finite (s : Sign) (m : Nat) (e : Int) :
    signOf (if h : m = 0 then .zero s else .finite s m e (Nat.pos_of_ne_zero h)) = some s := by
  by_cases h : m = 0
  · rw [dif_pos h]
    rfl
  · rw [dif_neg h]
    rfl

theorem signOf_roundWithAccuracy (s : Sign) (m : Nat) (e : Int) (a : Accuracy) :
    signOf (roundWithAccuracy Format.binary64 s m e a) = some s :=
  signOf_zero_or_finite s _ _

theorem signOf_mul (hu : u.isFinite = true) (hv : v.isFinite = true) (hs : signOf u = some s)
    (ht : signOf v = some t) : signOf (UnpackedFloat.mul Format.binary64 u v) = some (s * t) := by
  cases u with
  | notANumber | infinity => cases hu
  | zero s' =>
    cases hs
    cases v with
    | notANumber | infinity => cases hv
    | zero | finite =>
      cases ht
      rfl
  | finite s' m e h =>
    cases hs
    cases v with
    | notANumber | infinity => cases hv
    | zero =>
      cases ht
      rfl
    | finite t' m' e' h' =>
      cases ht
      exact signOf_roundWithAccuracy _ _ _ _

theorem signOf_eq_none : signOf u = none ↔ u = .notANumber := by
  cases u with
  | notANumber => exact iff_of_true rfl rfl
  | infinity | zero | finite => exact iff_of_false nofun nofun

theorem lt_of_negative {m : Nat} {e : Int} {h : 0 < m} (hu : signOf u = some .negative) :
    u.lt (.finite .positive m e h) = true := by
  cases u with
  | notANumber => cases hu
  | infinity | zero | finite =>
    cases hu
    rfl

theorem exists_of_zero_lt (hf : u.isFinite = true)
    (hz : (UnpackedFloat.zero .positive).lt u = true) : ∃ m e h, u = .finite .positive m e h := by
  cases u with
  | notANumber | infinity => cases hf
  | zero => cases hz
  | finite s m e h =>
    cases s with
    | negative => cases hz
    | positive => exact ⟨m, e, h, rfl⟩

theorem zero_lt_of_not_lt {m : Nat} {e : Int} {h : 0 < m} (hf : u.isFinite = true)
    (hu : ¬ u.lt (.finite .positive m e h) = true) :
    (UnpackedFloat.zero .positive).lt u = true := by
  cases u with
  | notANumber | infinity => cases hf
  | zero => exact (hu rfl).elim
  | finite s m e h =>
    cases s with
    | negative => exact (hu rfl).elim
    | positive => rfl

theorem signOf_of_lt_zero (hf : u.isFinite = true) (hu : u.lt (.zero .positive) = true) :
    signOf u = some .negative := by
  cases u with
  | notANumber | infinity => cases hf
  | zero => cases hu
  | finite s =>
    cases s with
    | negative => rfl
    | positive => cases hu

theorem isInf_and_zero_lt_iff :
    u.isInf = true ∧ (UnpackedFloat.zero .positive).lt u = true ↔ u = .infinity .positive := by
  cases u with
  | infinity s =>
    cases s with
    | positive => exact iff_of_true ⟨rfl, rfl⟩ rfl
    | negative => exact iff_of_false (by decide) nofun
  | notANumber | zero | finite => exact iff_of_false (by rintro ⟨⟨⟩, -⟩) nofun

end Unpacked

def positiveInfinite (x : Float) : Bool := x.isInf && decide (0 < x)

section Doubles

variable {x y z : Float}

theorem lt_iff : x < y ↔ x.toModel.unpack.lt y.toModel.unpack = true := decide_eq_true_iff

theorem unpack_mul (x y : Float) : (x * y).toModel.unpack =
    UnpackedFloat.unpack Format.binary64 (UnpackedFloat.pack Format.binary64
      (UnpackedFloat.mul Format.binary64 x.toModel.unpack y.toModel.unpack)) := rfl

theorem positiveInfinite_iff :
    positiveInfinite x = true ↔ x.toModel.unpack = .infinity .positive := by
  rw [positiveInfinite, Bool.and_eq_true, decide_eq_true_iff, lt_iff]
  exact isInf_and_zero_lt_iff

theorem isNaN_iff : x.isNaN = true ↔ x.toModel.unpack = .notANumber := by
  change x.toModel.unpack.isNaN = true ↔ _
  cases x.toModel.unpack with
  | notANumber => exact iff_of_true rfl rfl
  | infinity | zero | finite => exact iff_of_false Bool.false_ne_true nofun

theorem exists_leastScale : ∃ m e h, leastScale.toModel.unpack = .finite .positive m e h := by
  have hf : leastScale.isFinite = true := by decide +kernel
  have hz : 0 < leastScale := by decide +kernel
  exact exists_of_zero_lt hf (lt_iff.mp hz)

theorem lt_leastScale (h : signOf x.toModel.unpack = some .negative) : x < leastScale := by
  obtain ⟨m, e, hm, hl⟩ := exists_leastScale
  rw [lt_iff, hl]
  exact lt_of_negative h

theorem exists_of_not_lt (hf : x.isFinite = true) (hx : ¬ x < leastScale) :
    ∃ m e h, x.toModel.unpack = .finite .positive m e h := by
  obtain ⟨m, e, hm, hl⟩ := exists_leastScale
  rw [lt_iff, hl] at hx
  exact exists_of_zero_lt hf (zero_lt_of_not_lt hf hx)

theorem not_lt_leastScale_of_infinite (h : positiveInfinite x = true) : ¬ x < leastScale := by
  obtain ⟨m, e, hm, hl⟩ := exists_leastScale
  rw [lt_iff, positiveInfinite_iff.mp h, hl]
  exact Bool.false_ne_true

theorem not_lt_of_isNaN (h : x.isNaN = true) : ¬ x < y := by
  rw [lt_iff, isNaN_iff.mp h]
  exact Bool.false_ne_true

theorem not_isFinite_of_infinite (h : positiveInfinite x = true) : ¬ x.isFinite = true := by
  change ¬ x.toModel.unpack.isFinite = true
  rw [positiveInfinite_iff.mp h]
  exact Bool.false_ne_true

theorem not_isFinite_of_isNaN (h : x.isNaN = true) : ¬ x.isFinite = true := by
  change ¬ x.toModel.unpack.isFinite = true
  rw [isNaN_iff.mp h]
  exact Bool.false_ne_true

theorem isNaN_mul (h : x.isNaN = true) (y : Float) : (x * y).isNaN = true := by
  rw [isNaN_iff, unpack_mul, isNaN_iff.mp h]
  cases y.toModel.unpack <;> exact unpack_packedNaN

theorem infinite_mul (hx : positiveInfinite x = true) (hy : y.isFinite = true) :
    if y < 0 then x * y < leastScale
    else if y == 0 then (x * y).isNaN = true else positiveInfinite (x * y) = true := by
  have hf : y.toModel.unpack.isFinite = true := hy
  have hp := unpack_mul x y
  rw [positiveInfinite_iff.mp hx] at hp
  cases hu : y.toModel.unpack with
  | notANumber | infinity =>
    rw [hu] at hf
    cases hf
  | zero s =>
    rw [hu] at hp
    have hn : ¬ y < 0 := by
      rw [lt_iff, hu]
      exact Bool.false_ne_true
    have hz : (y == 0) = true := by
      change y.toModel.unpack.beq (.zero .positive) = true
      rw [hu]
      rfl
    rw [if_neg hn, if_pos hz, isNaN_iff, hp]
    exact unpack_packedNaN
  | finite s m e h =>
    rw [hu] at hp
    cases s with
    | negative =>
      have hn : y < 0 := by
        rw [lt_iff, hu]
        rfl
      rw [if_pos hn]
      refine lt_leastScale ?_
      rw [hp]
      exact signOf_unpack_pack (.infinity .negative)
    | positive =>
      have hn : ¬ y < 0 := by
        rw [lt_iff, hu]
        exact Bool.false_ne_true
      have hz : ¬ (y == 0) = true := by
        change ¬ y.toModel.unpack.beq (.zero .positive) = true
        rw [hu]
        exact Bool.false_ne_true
      rw [if_neg hn, if_neg hz, positiveInfinite_iff, hp]
      exact unpack_packedInfinity .positive

section Finite

variable (hx : x.isFinite = true) (hl : ¬ x < leastScale) (hy : y.isFinite = true)

include hx hl hy

theorem signOf_scale_mul : signOf (x * y).toModel.unpack = signOf y.toModel.unpack := by
  obtain ⟨m, e, hm, hu⟩ := exists_of_not_lt hx hl
  have hf : y.toModel.unpack.isFinite = true := hy
  rw [unpack_mul, signOf_unpack_pack]
  cases hs : signOf y.toModel.unpack with
  | none =>
    rw [signOf_eq_none.mp hs] at hf
    cases hf
  | some t =>
    rw [signOf_mul hx hf (congrArg signOf hu) hs]
    cases t <;> rfl

theorem scale_mul_lt_of_neg (hn : y < 0) : x * y < leastScale := by
  refine lt_leastScale ?_
  rw [signOf_scale_mul hx hl hy]
  exact signOf_of_lt_zero hy (lt_iff.mp hn)

theorem scale_mul_lt_of_not_isFinite (hf : (x * y).isFinite = false)
    (hp : positiveInfinite (x * y) = false) : x * y < leastScale := by
  have hs := signOf_scale_mul hx hl hy
  refine lt_leastScale ?_
  have hf' : (x * y).toModel.unpack.isFinite = false := hf
  cases hu : (x * y).toModel.unpack with
  | zero | finite =>
    rw [hu] at hf'
    cases hf'
  | notANumber =>
    rw [hu] at hs
    have hy' : y.toModel.unpack.isFinite = true := hy
    rw [signOf_eq_none.mp hs.symm] at hy'
    cases hy'
  | infinity s =>
    cases s with
    | negative => rfl
    | positive =>
      rw [positiveInfinite_iff.mpr hu] at hp
      cases hp

end Finite

end Doubles

end Triplet
