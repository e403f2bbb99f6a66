import Triplet.Number.Dyadic

/-! # Doubles as decimals

The fewest digits that read back as the same double, and of those the nearest. A layout record
says where positional notation ends and how an exponent is written. With a fixed number of places,
the exact value of a double is rounded, a half to even.
-/

namespace Triplet

/-- The number `digits · 10 ^ exponent`. -/
structure Decimal where
  digits : Nat
  exponent : Int
  deriving DecidableEq, Repr

namespace Decimal

/-- Drop trailing zeros from the digits, at most `fuel` of them. -/
def strip : Nat → Decimal → Decimal
  | 0, d => d
  | fuel + 1, d =>
    if d.digits ≠ 0 ∧ d.digits % 10 = 0 then strip fuel ⟨d.digits / 10, d.exponent + 1⟩ else d

/-- The reals around `mantissa · 2 ^ exponent` that round to it, in quarters of a unit. -/
structure Interval where
  low : Nat
  high : Nat
  closed : Bool

def interval (mantissa : Nat) (exponent : Int) : Interval where
  low := if mantissa = Nat.pow 2 52 ∧ -1074 < exponent then 4 * mantissa - 1 else 4 * mantissa - 2
  high := 4 * mantissa + 2
  closed := mantissa % 2 = 0

/-- The exponent of the leading decimal digit of `mantissa · 2 ^ exponent`. -/
def leading (mantissa : Nat) (exponent : Int) : Int :=
  let num := mantissa * Nat.pow 2 exponent.toNat
  let den := Nat.pow 2 (-exponent).toNat
  let guess : Int := (((mantissa.log2 : Int) + exponent) * 30103).fdiv 100000
  let atLeast (k : Int) : Bool := den * Nat.pow 10 k.toNat ≤ num * Nat.pow 10 (-k).toNat
  if !atLeast guess then guess - 1 else if atLeast (guess + 1) then guess + 1 else guess

/-- The nearest point of the grid of multiples of `10 ^ p` inside the interval, if there is one. -/
def onGrid? (mantissa : Nat) (exponent : Int) (p : Int) : Option Decimal :=
  let a := Nat.pow 10 p.toNat * Nat.pow 2 (-exponent).toNat
  let b := Nat.pow 10 (-p).toNat * Nat.pow 2 exponent.toNat
  let i := interval mantissa exponent
  let inside (n : Nat) : Bool :=
    if i.closed then i.low * b ≤ 4 * n * a && 4 * n * a ≤ i.high * b
    else i.low * b < 4 * n * a && 4 * n * a < i.high * b
  let below := mantissa * b / a
  let above := below + 1
  let near := if 2 * (mantissa * b) < (below + above) * a then below
    else if (below + above) * a < 2 * (mantissa * b) then above
    else below + below % 2
  let far := below + above - near
  if inside near then some ⟨near, p⟩ else if inside far then some ⟨far, p⟩ else none

/-- Try the grids with `digits`, `digits + 1`, ... places, at most `fuel` of them. -/
def search (mantissa : Nat) (exponent : Int) (top : Int) : Nat → Nat → Decimal
  | 0, _ => ⟨mantissa * Nat.pow 2 exponent.toNat, 0⟩
  | fuel + 1, digits =>
    match onGrid? mantissa exponent (top - digits + 1) with
    | some d => d.strip 20
    | none => search mantissa exponent top fuel (digits + 1)

/-- The shortest decimal that reads back as a positive double. -/
def shortest (d : Dyadic) : Decimal :=
  search d.mantissa d.exponent (leading d.mantissa d.exponent) 17 1

end Decimal

/-- How a double is written. -/
structure DoubleLayout where
  /-- The least exponent of the leading digit that is written positionally. -/
  leastPositional : Int
  /-- The least exponent of the leading digit that is written in scientific notation again. -/
  firstScientific : Int
  /-- The least number of digits of an exponent. -/
  exponentDigits : Nat
  infinity : String
  nan : String

/-- Integers keep a fraction `.0`, and exponents have a sign and at least two digits. -/
def DoubleLayout.standard : DoubleLayout where
  leastPositional := -4
  firstScientific := 16
  exponentDigits := 2
  infinity := "inf"
  nan := "nan"

namespace DoubleLayout

def zeros (n : Nat) : String := String.ofList (List.replicate n '0')

/-- Write `digits · 10 ^ exponent` with a point. -/
def positional (digits : String) (exponent : Int) : String :=
  let point := digits.length + exponent
  if 0 ≤ exponent then digits ++ zeros exponent.toNat ++ ".0"
  else if 0 < point then
    String.ofList (digits.toList.take point.toNat) ++ "." ++
      String.ofList (digits.toList.drop point.toNat)
  else "0." ++ zeros (-point).toNat ++ digits

/-- Write `digits · 10 ^ exponent` with one digit before the point and an exponent. -/
def scientific (layout : DoubleLayout) (digits : String) (exponent : Int) : String :=
  let power := digits.length + exponent - 1
  let fraction := String.ofList (digits.toList.drop 1)
  let shown := toString power.natAbs
  String.ofList (digits.toList.take 1) ++ (if fraction.isEmpty then "" else "." ++ fraction) ++
    "e" ++ (if power < 0 then "-" else "+") ++ zeros (layout.exponentDigits - shown.length) ++ shown

def write (layout : DoubleLayout) (x : Float) : String :=
  match Dyadic.ofFloat? x with
  | none =>
    if x.isNaN then layout.nan
    else if 0 < x then layout.infinity
    else "-" ++ layout.infinity
  | some d =>
    let sign := if d.negative then "-" else ""
    if d.mantissa = 0 then sign ++ "0.0"
    else
      let decimal := Decimal.shortest d
      let digits := toString decimal.digits
      let power := digits.length + decimal.exponent - 1
      sign ++
        if layout.leastPositional ≤ power ∧ power < layout.firstScientific then
          positional digits decimal.exponent
        else layout.scientific digits decimal.exponent

end DoubleLayout

/-- Write a natural number of units of `10 ^ -places`. -/
def placed (places : Nat) (n : Nat) : String :=
  let digits := toString n
  let padded := DoubleLayout.zeros (places + 1 - digits.length) ++ digits
  let whole := padded.length - places
  String.ofList (padded.toList.take whole) ++ "." ++ String.ofList (padded.toList.drop whole)

/-- Write a double with `places` decimal places. -/
def fixed (places : Nat) (x : Float) : String :=
  match Dyadic.ofFloat? x with
  | none => DoubleLayout.standard.write x
  | some d =>
    (if d.negative then "-" else "") ++
      placed places (roundDiv (d.numerator * Nat.pow 10 places) d.denominator)

end Triplet
