import Triplet.Random.Generator

/-! # Draws between bounds

Integers of 64 bits from a lower bound to below an upper one, and doubles between two bounds. There
is nothing to draw between bounds in the wrong order.
-/

namespace Triplet.Random

/-- Why nothing can be drawn between two bounds. -/
inductive RangeError where
  | notAboveZero
  | notAboveLower
  | lowerTooSmall
  | upperTooLarge
  | negativeWidth
  /-- A distance of doubles that is not finite. -/
  | infiniteWidth
  | negativeCount
  deriving DecidableEq, Repr

def RangeError.message : RangeError → String
  | notAboveZero => "high <= 0"
  | notAboveLower => "low >= high"
  | lowerTooSmall => "low is out of bounds for int64"
  | upperTooLarge => "high is out of bounds for int64"
  | negativeWidth => "high - low < 0"
  | infiniteWidth => "high - low range exceeds valid bounds"
  | negativeCount => "negative dimensions are not allowed"

/-- Draw until the product of 64 bits and `n` has a lower half of at least `least`. -/
def wideProduct (n least : Nat) : Nat → Draw Nat
  | 0 => return (← Generator.next64).toNat * n
  | fuel + 1 => do
    let m := (← Generator.next64).toNat * n
    if m % 0x10000000000000000 < least then wideProduct n least fuel else return m

/-- Draw a number below one that is greater than all words of 32 bits. -/
def wideBelow (n : Nat) : Draw Nat :=
  return (← wideProduct n ((0x10000000000000000 - n) % n) attempts) / 0x10000000000000000

/-- Draw an integer from `lower` to below `upper`. -/
def between (lower upper : Int) : Except RangeError (Draw Int) :=
  if lower < -0x8000000000000000 then .error .lowerTooSmall
  else if 0x8000000000000000 < upper then .error .upperTooLarge
  else if upper ≤ lower then .error (if lower = 0 then .notAboveZero else .notAboveLower)
  else
    let n := (upper - lower).toNat
    .ok do
      let k ← if n ≤ 0x100000000 then below n else wideBelow n
      return lower + k

/-- Draw a number of doubles between two bounds. -/
def doublesBetween (lower upper : Float) (count : Int) : Except RangeError (Draw (List Float)) :=
  let width := upper - lower
  if !width.isFinite then .error .infiniteWidth
  else if hasSignBit width then .error .negativeWidth
  else if count < 0 then .error .negativeCount
  else .ok (many count.toNat (uniform lower upper))

end Triplet.Random
