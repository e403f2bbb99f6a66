import Triplet.Proofs.Doubles

/-! # The doubles nearest to integers

The bits of a finite double are kept as they are, so that a double can be read back part by part.
The double nearest to an integer has a mantissa of 53 bits. It is the integer itself if that has no
more bits, and otherwise no farther from it than half of its last bit.
-/

namespace Triplet

open Float.Model UnpackedFloat

section Bits

variable {b : BitVec Format.binary64.numBits}

theorem toBitVec_ofBitVec (s : BitVec 1) : (Sign.ofBitVec s).toBitVec = s := by
  rcases BitVec.eq_zero_or_eq_one s with rfl | rfl <;> rfl

theorem packComponents_unpack (b : BitVec Format.binary64.numBits) :
    packComponents Format.binary64 (Sign.ofBitVec (unpackSign b)) (unpackExponent b)
      (unpackMantissa b) = b := by
  have hm : Format.binary64.mantissaBitsWithoutImplicit = 52 := rfl
  have he : Format.binary64.exponentBits = 11 := rfl
  rw [packComponents, toBitVec_ofBitVec]
  apply BitVec.eq_of_getLsbD_eq
  intro i hi
  have hi : i < 64 := hi
  rw [BitVec.getLsbD_append, BitVec.getLsbD_append]
  split
  · simp [unpackMantissa]
    omega
  · split
    · simp only [unpackExponent, BitVec.getLsbD_cast, BitVec.getLsbD_extract]
      rw [show 52 + (i - 52) = i by omega, decide_eq_true (by omega), Bool.true_and]
    · obtain rfl : i = 63 := by omega
      delta unpackSign
      simp only [BitVec.getLsbD_cast, BitVec.getLsbD_extract]
      rfl

theorem toNat_implicit (m : BitVec Format.binary64.mantissaBitsWithoutImplicit) :
    (1#1 ++ m).toNat = 2 ^ 52 + m.toNat := by
  have hm : m.toNat < 2 ^ 52 := m.isLt
  rw [BitVec.toNat_append, Nat.shiftLeft_eq, Nat.mul_comm]
  exact (Nat.two_pow_add_eq_or_of_lt hm 1).symm

theorem pack_normal (s : Sign) {e : BitVec Format.binary64.exponentBits}
    (he : e.toNat ≠ 2047) (m : BitVec Format.binary64.mantissaBitsWithoutImplicit)
    (h : 0 < (1#1 ++ m).toNat) :
    UnpackedFloat.pack Format.binary64 (.finite s (1#1 ++ m).toNat
      ((e.toNat : Int) - ((Format.binary64.exponentBias : Int) +
        (Format.binary64.mantissaBitsWithoutImplicit : Int))) h) =
      packComponents Format.binary64 s e m := by
  have hlt : e.toNat < 2048 := e.isLt
  have hmant : m.toNat < 2 ^ 52 := m.isLt
  have hpow : 2 ^ 11 = 2048 := rfl
  have hlog : (2 ^ 52 + m.toNat).log2 = 52 := by
    refine (Nat.log2_eq_iff (by omega)).mpr ⟨Nat.le_add_right _ _, ?_⟩
    have hdouble : 2 ^ (52 + 1) = 2 ^ 52 + 2 ^ 52 := rfl
    omega
  have hbias : ((e.toNat : Int) - ((Format.binary64.exponentBias : Int) +
      (Format.binary64.mantissaBitsWithoutImplicit : Int)) + 1023 + 52).toNat = e.toNat := by
    have hb : (Format.binary64.exponentBias : Int) = 1023 := rfl
    have hw : (Format.binary64.mantissaBitsWithoutImplicit : Int) = 52 := rfl
    omega
  have hexp : BitVec.ofNat 11 e.toNat = e := by
    refine BitVec.eq_of_toNat_eq ?_
    rw [BitVec.toNat_ofNat]
    exact Nat.mod_eq_of_lt hlt
  have hlow : BitVec.ofNat 52 (2 ^ 52 + m.toNat) = m := by
    refine BitVec.eq_of_toNat_eq ?_
    rw [BitVec.toNat_ofNat]
    exact (Nat.add_mod_left _ _).trans (Nat.mod_eq_of_lt hmant)
  rw [pack_finite, toNat_implicit, hbias, hexp, hlow, if_neg (by omega), if_pos (by omega)]

theorem pack_unpack (h : exponentField b.toNat ≠ 2047) :
    UnpackedFloat.pack Format.binary64 (UnpackedFloat.unpack Format.binary64 b) = b := by
  have he : unpackExponent b ≠ -1#11 := mt unpackExponent_eq_ones_iff.mp h
  have hn : (unpackExponent b).toNat ≠ 2047 := fun hn => he (BitVec.eq_of_toNat_eq hn)
  refine Eq.trans ?_ (packComponents_unpack b)
  unfold UnpackedFloat.unpack
  rw [if_neg he]
  by_cases hz : unpackExponent b = 0#_
  · rw [if_pos hz, hz]
    by_cases hm : unpackMantissa b = 0#_
    · rw [dif_pos hm, hm]
      rfl
    · -- Without the implicit bit the mantissa has no 53 bits.
      have hlog : (unpackMantissa b).toNat.log2 < 52 :=
        (Nat.log2_lt fun h0 => hm (BitVec.eq_of_toNat_eq h0)).mpr (unpackMantissa b).isLt
      rw [dif_neg hm, pack_finite, if_neg, if_neg (by omega), BitVec.ofNat_toNat]
      · rfl
      · decide
  · rw [if_neg hz]
    exact pack_normal _ hn _ _

theorem toBits_ofBits {bits : UInt64} (h : exponentField bits.toNat ≠ 2047) :
    (Float.ofBits bits).toBits = bits :=
  congrArg UInt64.ofBitVec (pack_unpack h)

end Bits

namespace Dyadic

theorem ofFloat?_normal (negative : Bool) {mantissa k : Nat} (hl : 2 ^ 52 ≤ mantissa)
    (hh : mantissa < 2 ^ 53) (hk : 0 < k) (hk' : k < 2047) :
    ofFloat? (Float.ofBits (k * 2 ^ 52 + (mantissa - 2 ^ 52) +
      if negative then 2 ^ 63 else 0).toUInt64) =
      some ⟨negative, mantissa, (k : Int) - 1075⟩ := by
  have h52 : 2 ^ 52 = 4503599627370496 := rfl
  have h53 : 2 ^ 53 = 9007199254740992 := rfl
  have h63 : 2 ^ 63 = 9223372036854775808 := rfl
  have h11 : 2 ^ 11 = 2048 := rfl
  rw [h52] at hl
  rw [h53] at hh
  rw [h52, h63]
  generalize hs : (if negative then 9223372036854775808 else 0) = sign
  have hsign : sign = 0 ∧ negative = false ∨ sign = 9223372036854775808 ∧ negative = true := by
    cases negative <;> simp_all
  generalize hbits : k * 4503599627370496 + (mantissa - 4503599627370496) + sign = bits
  have hlt : bits < 2 ^ 64 := by omega
  have hnat : bits.toUInt64.toNat = bits := UInt64.toNat_ofNat_of_lt' hlt
  have hfield : bits / 4503599627370496 % 2048 = k := by omega
  have hfraction : bits % 4503599627370496 = mantissa - 4503599627370496 := by omega
  have hnegative : decide (9223372036854775808 ≤ bits) = negative := by
    rcases hsign with ⟨hs, hn⟩ | ⟨hs, hn⟩
    · rw [hn, decide_eq_false (by omega)]
    · rw [hn, decide_eq_true (by omega)]
  have hround : (Float.ofBits bits.toUInt64).toBits.toNat = bits := by
    rw [toBits_ofBits (by rw [hnat, exponentField, h52, h11, hfield]; omega), hnat]
  simp only [ofFloat?, Nat.pow_eq, hround, h52, h63, h11, hfield, hfraction, hnegative]
  rw [if_neg (by omega), if_neg (by omega), Nat.add_sub_of_le hl]

section Nearest

variable {num : Nat}

theorem le_roundDiv {a b k : Nat} (hb : 0 < b) (h : k * b ≤ a) : k ≤ roundDiv a b := by
  have hq : k ≤ a / b := (Nat.le_div_iff_mul_le hb).mpr h
  simp only [roundDiv]
  split
  · exact hq
  · split <;> omega

theorem roundDiv_near {a b : Nat} (hb : 0 < b) :
    2 * a ≤ 2 * (roundDiv a b * b) + b ∧ 2 * (roundDiv a b * b) ≤ 2 * a + b := by
  have ha : a / b * b + a % b = a := Nat.div_add_mod' a b
  have hr : a % b < b := Nat.mod_lt a hb
  have hnext : (a / b + 1) * b = a / b * b + b := Nat.succ_mul ..
  simp only [roundDiv]
  split
  · omega
  · split
    · omega
    · rcases Nat.mod_two_eq_zero_or_one (a / b) with hq | hq
      · rw [hq, Nat.add_zero]
        omega
      · rw [hq]
        omega

theorem roundDiv_one (a : Nat) : roundDiv a 1 = a := by
  simp [roundDiv, Nat.mod_one]

/-- The mantissa that is nearest to a positive integer, with 53 bits or the next power of two. -/
def nearestMantissa (num : Nat) : Nat :=
  roundDiv (num * 2 ^ (52 - num.log2)) (2 ^ (num.log2 - 52))

theorem pow_mul_le {k : Nat} (h : num ≠ 0) :
    2 ^ k * 2 ^ (num.log2 - k) ≤ num * 2 ^ (k - num.log2) := by
  have hnum : 2 ^ num.log2 ≤ num := Nat.log2_self_le h
  calc 2 ^ k * 2 ^ (num.log2 - k)
      = 2 ^ (k + (num.log2 - k)) := (Nat.pow_add ..).symm
    _ = 2 ^ (num.log2 + (k - num.log2)) := congrArg (2 ^ ·) (by omega)
    _ = 2 ^ num.log2 * 2 ^ (k - num.log2) := Nat.pow_add ..
    _ ≤ num * 2 ^ (k - num.log2) := Nat.mul_le_mul_right _ hnum

theorem le_nearestMantissa (h : num ≠ 0) : 2 ^ 52 ≤ nearestMantissa num :=
  le_roundDiv (Nat.two_pow_pos _) (pow_mul_le h)

theorem mul_pow_lt (num : Nat) :
    num * 2 ^ (52 - num.log2) < 2 ^ 53 * 2 ^ (num.log2 - 52) := by
  have h : num * 2 ^ (-((num.log2 : Int) - 52)).toNat <
    2 ^ 53 * 2 ^ ((num.log2 : Int) - 52).toNat := scaled_lt (Int.le_refl _)
  rwa [show (-((num.log2 : Int) - 52)).toNat = 52 - num.log2 by omega,
    show ((num.log2 : Int) - 52).toNat = num.log2 - 52 by omega] at h

theorem nearestMantissa_le (num : Nat) : nearestMantissa num ≤ 2 ^ 53 :=
  roundDiv_le_of_lt (mul_pow_lt num)

theorem nearestBits_eq (h : num ≠ 0) (hl : num.log2 < 1023) :
    nearestBits num 1 =
      (num.log2 + 1023) * 2 ^ 52 + (nearestMantissa num - 2 ^ 52) := by
  have hone : Nat.log2 1 = 0 := by decide
  have hguess : max ((num.log2 : Int) - (0 : Nat) - 53) (-1074) = (num.log2 : Int) - 53 := by omega
  have hlow : (-((num.log2 : Int) - 53)).toNat = 53 - num.log2 := by omega
  have hhigh : ((num.log2 : Int) - 53).toNat = num.log2 - 53 := by omega
  have hnext : (num.log2 : Int) - 53 + 1 = num.log2 - 52 := by omega
  have hlow' : (-((num.log2 : Int) - 52)).toNat = 52 - num.log2 := by omega
  have hhigh' : ((num.log2 : Int) - 52).toNat = num.log2 - 52 := by omega
  have hfield : ((num.log2 : Int) - 52 + 1075).toNat = num.log2 + 1023 := by omega
  have hround : roundDiv (num * 2 ^ (52 - num.log2)) (2 ^ (num.log2 - 52)) =
    nearestMantissa num := rfl
  have hm := le_nearestMantissa h
  have hm' := nearestMantissa_le num
  -- The first guess is too low by one, whatever the integer is.
  simp only [nearestBits, Nat.pow_eq, if_neg h, hone, Nat.one_mul, hguess, hlow, hhigh,
    if_pos (pow_mul_le h), hnext, hlow', hhigh', hfield, hround]
  have h52 : 2 ^ 52 = 4503599627370496 := rfl
  have h53 : 2 ^ 53 = 9007199254740992 := rfl
  rw [if_neg (Nat.not_lt.mpr hm), Nat.min_eq_left]
  rw [h52] at hm ⊢
  rw [h53] at hm'
  omega

end Nearest

/-- The double nearest to an integer other than zero. A mantissa that was rounded up to a power of
two is halved. -/
def nearest (n : Int) : Dyadic :=
  let mantissa := nearestMantissa n.natAbs
  if mantissa = 2 ^ 53 then ⟨n < 0, 2 ^ 52, (n.natAbs.log2 : Int) - 51⟩
  else ⟨n < 0, mantissa, (n.natAbs.log2 : Int) - 52⟩

section Integer

variable {n : Int}

theorem ofFloat?_nearestDouble (h : n ≠ 0) (hl : n.natAbs.log2 < 1023) :
    ofFloat? (nearestDouble n) = some (nearest n) := by
  have hn : n.natAbs ≠ 0 := by omega
  have hm := le_nearestMantissa hn
  have hm' := nearestMantissa_le n.natAbs
  rw [nearestDouble, ofRatio, Nat.pow_eq, nearestBits_eq hn hl, nearest]
  by_cases hround : nearestMantissa n.natAbs = 2 ^ 53
  · have hcarry (k a : Nat) : (k + 1023) * a + (2 * a - a) = (k + 1024) * a + (a - a) := by
      rw [Nat.succ_mul (k + 1023) a]
      omega
    have hdouble : 2 ^ 53 = 2 * 2 ^ 52 := rfl
    rw [if_pos hround, hround, hdouble, hcarry, ofFloat?_normal _ (Nat.le_refl _) (by decide)
      (by omega) (by omega)]
    simp only [Option.some.injEq, mk.injEq, true_and]
    omega
  · rw [if_neg hround, ofFloat?_normal _ hm (Nat.lt_of_le_of_ne hm' hround) (by omega) (by omega)]
    simp only [Option.some.injEq, mk.injEq, true_and]
    omega

theorem ofFloat?_nearestDouble_zero : ofFloat? (nearestDouble 0) = some ⟨false, 0, -1074⟩ := by
  have hbits : (Float.ofBits 0).toBits = 0 := toBits_ofBits (by decide)
  rw [show nearestDouble 0 = Float.ofBits 0 from rfl]
  simp [ofFloat?, hbits]

theorem nearest_mantissa_ne_zero (h : n ≠ 0) : (nearest n).mantissa ≠ 0 := by
  have hpos : 0 < 2 ^ 52 := Nat.two_pow_pos 52
  have hm := le_nearestMantissa (Int.natAbs_ne_zero.mpr h)
  rw [nearest]
  split
  · exact Nat.ne_of_gt hpos
  · exact Nat.ne_of_gt (Nat.lt_of_lt_of_le hpos hm)

theorem nearest_negative (n : Int) : (nearest n).negative = decide (n < 0) := by
  rw [nearest]
  split <;> rfl

theorem nearest_of_lt (hl : n.natAbs < 2 ^ 53) :
    nearest n = ⟨n < 0, n.natAbs * 2 ^ (52 - n.natAbs.log2), (n.natAbs.log2 : Int) - 52⟩ := by
  have hlog : n.natAbs.log2 < 53 := log2_lt_of_lt (by decide) hl
  have hmantissa : nearestMantissa n.natAbs = n.natAbs * 2 ^ (52 - n.natAbs.log2) := by
    rw [nearestMantissa, show n.natAbs.log2 - 52 = 0 by omega]
    exact roundDiv_one _
  have hlt : nearestMantissa n.natAbs ≠ 2 ^ 53 := by
    have hs := mul_pow_lt n.natAbs
    rw [show n.natAbs.log2 - 52 = 0 by omega, ← hmantissa] at hs
    exact Nat.ne_of_lt hs
  rw [nearest, if_neg hlt, hmantissa]

/-- The double nearest to a longer integer is a whole number, which differs from the integer by no
more than half of its last bit. -/
theorem nearest_of_le (h : 2 ^ 53 ≤ n.natAbs) :
    ∃ e b : Nat, (nearest n).exponent = e ∧ 2 ^ 52 * b ≤ n.natAbs ∧ 2 ^ e ≤ 2 * b ∧
      2 * n.natAbs ≤ 2 * ((nearest n).mantissa * 2 ^ e) + b ∧
      2 * ((nearest n).mantissa * 2 ^ e) ≤ 2 * n.natAbs + b := by
  have hn : n.natAbs ≠ 0 := by
    have hpos : 0 < 2 ^ 53 := Nat.two_pow_pos 53
    omega
  have hlog : 53 ≤ n.natAbs.log2 := (Nat.le_log2 hn).mpr h
  have hzero : 52 - n.natAbs.log2 = 0 := by omega
  have hlow : 2 ^ 52 * 2 ^ (n.natAbs.log2 - 52) ≤ n.natAbs := by
    have hle := pow_mul_le (k := 52) hn
    rwa [hzero, show n.natAbs * 2 ^ 0 = n.natAbs from Nat.mul_one _] at hle
  have hmantissa : nearestMantissa n.natAbs =
      roundDiv n.natAbs (2 ^ (n.natAbs.log2 - 52)) := by
    rw [nearestMantissa, hzero]
    exact congrArg (roundDiv · _) (Nat.mul_one _)
  have hnear := roundDiv_near (a := n.natAbs) (Nat.two_pow_pos (n.natAbs.log2 - 52))
  rw [← hmantissa] at hnear
  by_cases hround : nearestMantissa n.natAbs = 2 ^ 53
  · have hpow : 2 ^ (n.natAbs.log2 - 51) = 2 * 2 ^ (n.natAbs.log2 - 52) := by
      rw [show n.natAbs.log2 - 51 = n.natAbs.log2 - 52 + 1 by omega]
      exact Nat.pow_succ'
    have hcarry (b : Nat) : 2 ^ 52 * (2 * b) = 2 ^ 53 * b := by
      rw [← Nat.mul_assoc, ← Nat.pow_succ]
    rw [nearest, if_pos hround]
    refine ⟨n.natAbs.log2 - 51, 2 ^ (n.natAbs.log2 - 52), by simp only; omega, hlow,
      Nat.le_of_eq hpow, ?_⟩
    rw [hpow, hcarry, ← hround]
    exact hnear
  · rw [nearest, if_neg hround]
    exact ⟨n.natAbs.log2 - 52, 2 ^ (n.natAbs.log2 - 52), by simp only; omega, hlow,
      Nat.le_mul_of_pos_left _ Nat.two_pos, hnear⟩

end Integer

end Dyadic

end Triplet
