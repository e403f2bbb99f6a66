/-! # Doubles as exact fractions

A finite double is a signed integer times a power of two. Reading it as such makes comparison,
remainder and rounding exact, and every quotient of integers has one nearest double.
-/

namespace Triplet

/-- The number `± mantissa · 2 ^ exponent`. -/
structure Dyadic where
  negative : Bool
  mantissa : Nat
  exponent : Int
  deriving DecidableEq, Repr

/-- Divide and round to the nearest integer, a half to the even neighbour. -/
def roundDiv (a b : Nat) : Nat :=
  let q := a / b
  let r := a % b
  if 2 * r < b then q
  else if b < 2 * r then q + 1
  else q + q % 2

namespace Dyadic

/-- The exact value of a finite double. -/
def ofFloat? (x : Float) : Option Dyadic :=
  let bits := x.toBits.toNat
  let negative := Nat.pow 2 63 ≤ bits
  let exponent : Nat := bits / Nat.pow 2 52 % Nat.pow 2 11
  let fraction : Nat := bits % Nat.pow 2 52
  if exponent = 2047 then none
  else if exponent = 0 then some ⟨negative, fraction, -1074⟩
  else some ⟨negative, Nat.pow 2 52 + fraction, (exponent : Int) - 1075⟩

/-- The bits of the positive double nearest to `num / den`, a tie going to the even mantissa. -/
def nearestBits (num den : Nat) : Nat :=
  if num = 0 then 0
  else
    let scaled (e : Int) : Nat × Nat := (num * Nat.pow 2 (-e).toNat, den * Nat.pow 2 e.toNat)
    let guess : Int := max ((num.log2 : Int) - den.log2 - 53) (-1074)
    let (a, b) := scaled guess
    let exponent := if Nat.pow 2 53 * b ≤ a then guess + 1 else guess
    let (a, b) := scaled exponent
    let mantissa := roundDiv a b
    let bits :=
      if mantissa < Nat.pow 2 52 then mantissa
      else (exponent + 1075).toNat * Nat.pow 2 52 + (mantissa - Nat.pow 2 52)
    min bits (2047 * Nat.pow 2 52)

/-- The double nearest to `± num / den`. -/
def ofRatio (negative : Bool) (num den : Nat) : Float :=
  Float.ofBits (nearestBits num den + if negative then Nat.pow 2 63 else 0).toUInt64

def numerator (d : Dyadic) : Nat := d.mantissa * Nat.pow 2 d.exponent.toNat

def denominator (d : Dyadic) : Nat := Nat.pow 2 (-d.exponent).toNat

def toFloat (d : Dyadic) : Float := ofRatio d.negative d.numerator d.denominator

/-- Cut off the fraction. -/
def truncate (d : Dyadic) : Int :=
  let n : Int := d.numerator / d.denominator
  if d.negative then -n else n

/-- The greatest integer that is not greater. -/
def floor (d : Dyadic) : Int :=
  let n : Int := d.numerator
  (if d.negative then -n else n).fdiv d.denominator

/-- Compare an integer with a dyadic number. -/
def compareInt (n : Int) (d : Dyadic) : Ordering :=
  let m : Int := d.numerator
  compare (n * d.denominator) (if d.negative then -m else m)

/-- The remainder of truncated division, with the sign of the dividend. -/
def remainder (a b : Dyadic) : Dyadic :=
  let e := min a.exponent b.exponent
  let scaled (d : Dyadic) : Nat := d.mantissa * Nat.pow 2 (d.exponent - e).toNat
  ⟨a.negative, scaled a % scaled b, e⟩

end Dyadic

/-- The double nearest to an integer; infinite if the integer is too large. -/
def nearestDouble (n : Int) : Float := Dyadic.ofRatio (n < 0) n.natAbs 1

/-- The double nearest to an integer times a power of ten. -/
def doubleOfDecimal (negative : Bool) (digits : Nat) (exponent : Int) : Float :=
  Dyadic.ofRatio negative (digits * Nat.pow 10 exponent.toNat) (Nat.pow 10 (-exponent).toNat)

end Triplet
