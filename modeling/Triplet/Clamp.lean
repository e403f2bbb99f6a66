import Triplet.Value

/-! # Keeping values between bounds

A value between bounds is a double. Doubles are compared with doubles, integers that are machine
words with words of the same kind, and all other integers exactly. A missing bound does not bind,
and the upper bound wins over the lower.
-/

namespace Triplet

/-- The integers that fit into a machine word. -/
structure WordRange where
  least : Int
  greatest : Int
  deriving DecidableEq, Repr

namespace WordRange

def signed : WordRange := ⟨-0x8000000000000000, 0x7fffffffffffffff⟩

def unsigned : WordRange := ⟨0, 0xffffffffffffffff⟩

def has (r : WordRange) (n : Int) : Bool := r.least ≤ n && n ≤ r.greatest

/-- The kind of words to which an integer belongs. -/
def of? (n : Int) : Option WordRange :=
  if signed.has n then some signed else if unsigned.has n then some unsigned else none

/-- A bound as a word. Truth values are words of every kind. -/
def word (r : WordRange) : Value → Except Fault Int
  | .truth b => .ok b.toNat
  | .int n => if r.has n then .ok n else .error .tooLarge
  | _ => .error .wrongKind

end WordRange

namespace Clamp

/-- A lower and an upper bound; either may be missing. -/
structure Bounds where
  lower? : Option Value
  upper? : Option Value
  deriving DecidableEq

namespace Bounds

def toList (b : Bounds) : List Value := b.lower?.toList ++ b.upper?.toList

def ofValues (lower upper : Value) : Bounds where
  lower? := if lower = .missing then none else some lower
  upper? := if upper = .missing then none else some upper

/-- Leave out the integers that bind no word. -/
def within (r : WordRange) (b : Bounds) : Bounds where
  lower? := b.lower?.filter fun
    | .int n => r.least < n
    | _ => true
  upper? := b.upper?.filter fun
    | .int n => n < r.greatest
    | _ => true

end Bounds

/-- Among doubles, one that is not a number is always the result. -/
def amongDoubles (x : Float) (lower? upper? : Option Float) : Float :=
  if (lower?.toList ++ upper?.toList).any Float.isNaN then 0.0 / 0.0
  else
    let x := match lower? with
      | some lower => if x < lower then lower else x
      | none => x
    match upper? with
    | some upper => if upper < x then upper else x
    | none => x

/-- Among exact integers, a bound is the result unless it is compared with success. -/
def exactly (n : Number) (lower? upper? : Option Number) : Number :=
  let n := match lower? with
    | some lower => if lower.less n || lower.equal n then n else lower
    | none => n
  match upper? with
  | some upper => if n.less upper || n.equal upper then n else upper
  | none => n

/-- An operation on a bound that may be missing. -/
def onBound {α β : Type} (f : α → Except Fault β) : Option α → Except Fault (Option β)
  | none => .ok none
  | some a => (f a).map some

/-- Keep an integer that is no word, or nothing at all, between bounds. -/
def large (v : Value) (b : Bounds) : Except Fault Float := do
  let n ← v.toNumber
  (exactly n (← onBound Value.toNumber b.lower?) (← onBound Value.toNumber b.upper?)).toDouble

def double (v : Value) : Except Fault Float := do (← v.toNumber).toDouble

/-- Keep a word or a double between bounds. -/
def small (r : WordRange) (v : Value) (b : Bounds) : Except Fault Float := do
  if (v :: b.toList).any Value.isText then throw .noDouble
  if (v :: b.toList).any Value.isReal then
    return amongDoubles (← double v) (← onBound double b.lower?) (← onBound double b.upper?)
  else
    let n ← r.word v
    let lower? ← onBound r.word b.lower?
    let upper? ← onBound r.word b.upper?
    (exactly (.int n) (lower?.map .int) (upper?.map .int)).toDouble

end Clamp

/-- Keep a value between bounds. A truth value without bounds cannot be made a double. -/
def clamp (v lower upper : Value) : Except Fault Float :=
  let bounds := Clamp.Bounds.ofValues lower upper
  match v with
  | .int n =>
    match WordRange.of? n with
    | some r => Clamp.small r v (bounds.within r)
    | none => Clamp.large v bounds
  | .missing => Clamp.large v bounds
  | .truth _ =>
    if bounds.toList.isEmpty then .error .noDouble else Clamp.small .signed v bounds
  | .real _ | .text _ => Clamp.small .signed v bounds

end Triplet
