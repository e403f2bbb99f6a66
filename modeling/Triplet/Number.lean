import Triplet.Fault
import Triplet.Number.Shortest

/-! # Numbers

A number is an unbounded integer or a double. Integers are exact among themselves, and an integer
that meets a double is rounded to a double first; comparison alone is exact in every case.
-/

namespace Triplet

/-- Whether the sign bit is set, as it is for `-0.0`. -/
def hasSignBit (x : Float) : Bool := Nat.pow 2 63 ≤ x.toBits.toNat

/-- The remainder with the sign of the dividend. -/
def truncatedMod (a b : Float) : Float :=
  match Dyadic.ofFloat? a, Dyadic.ofFloat? b with
  | some x, some y => if y.mantissa = 0 then 0.0 / 0.0 else (x.remainder y).toFloat
  | some _, none => if b.isNaN then b else a
  | none, _ => 0.0 / 0.0

/-- The greatest integral double that is not greater. -/
def floorDouble (x : Float) : Float :=
  match Dyadic.ofFloat? x with
  | some d => nearestDouble d.floor
  | none => x

/-- The quotient rounded down. -/
def flooredDiv (a b : Float) : Float :=
  let r := truncatedMod a b
  let q := (a - r) / b
  let q := if r != 0 && (b < 0) != (r < 0) then q - 1 else q
  if q != 0 then
    let f := floorDouble q
    if q - f > 0.5 then f + 1 else f
  else if hasSignBit (a / b) then -0.0 else 0.0

/-- The remainder with the sign of the divisor. -/
def flooredMod (a b : Float) : Float :=
  let r := truncatedMod a b
  if r != 0 then if (b < 0) != (r < 0) then r + b else r
  else if hasSignBit b then -0.0 else 0.0

inductive Number where
  | int (n : Int)
  | real (x : Float)
  deriving DecidableEq

namespace Number

/-- The double nearest to a number. -/
def toDouble : Number → Except Fault Float
  | int n =>
    let x := nearestDouble n
    if x.isFinite then .ok x else .error .tooLarge
  | real x => .ok x

/-- Whether the number is a finite double, or an integer that rounds to one. -/
def isFinite : Number → Bool
  | int n => (nearestDouble n).isFinite
  | real x => x.isFinite

/-- Apply an operation to two integers, or to two doubles if one is a double. -/
def combine (onInt : Int → Int → Int) (onReal : Float → Float → Float) :
    Number → Number → Except Fault Number
  | int a, int b => .ok (int (onInt a b))
  | a, b => do return real (onReal (← a.toDouble) (← b.toDouble))

def add : Number → Number → Except Fault Number := combine (· + ·) (· + ·)

def sub : Number → Number → Except Fault Number := combine (· - ·) (· - ·)

def mul : Number → Number → Except Fault Number := combine (· * ·) (· * ·)

def isZero : Number → Bool
  | int n => n = 0
  | real x => x == 0

/-- The quotient rounded down. -/
def floorDiv (a b : Number) : Except Fault Number :=
  if b.isZero then .error .divisionByZero else combine Int.fdiv flooredDiv a b

/-- The quotient as a double. -/
def div (a b : Number) : Except Fault Float :=
  if b.isZero then .error .divisionByZero
  else
    match a, b with
    | int a, int b =>
      let x := Dyadic.ofRatio ((a < 0) != (b < 0)) a.natAbs b.natAbs
      if x.isFinite then .ok x else .error .tooLarge
    | a, b => do return (← a.toDouble) / (← b.toDouble)

/-- Compare an integer with a double; nothing compares with a value that is not a number. -/
def compareIntDouble (n : Int) (x : Float) : Option Ordering :=
  match Dyadic.ofFloat? x with
  | some d => some (d.compareInt n)
  | none => if x.isNaN then none else some (if 0 < x then .lt else .gt)

def compare? : Number → Number → Option Ordering
  | int a, int b => some (compare a b)
  | int a, real y => compareIntDouble a y
  | real x, int b => (compareIntDouble b x).map Ordering.swap
  | real x, real y =>
    if x < y then some .lt else if y < x then some .gt else if x == y then some .eq else none

def equal (a b : Number) : Bool := compare? a b == some .eq

def less (a b : Number) : Bool := compare? a b == some .lt

/-- Cut off the fraction. -/
def truncate : Number → Except Fault Int
  | int n => .ok n
  | real x =>
    match Dyadic.ofFloat? x with
    | some d => .ok d.truncate
    | none => .error .tooLarge

def abs : Number → Number
  | int n => int n.natAbs
  | real x => real x.abs

def write : Number → String
  | int n => toString n
  | real x => DoubleLayout.standard.write x

end Number

end Triplet
