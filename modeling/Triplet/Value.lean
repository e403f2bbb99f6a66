import Triplet.Number
import Triplet.Number.Reading

/-! # Values

What the stack, the pen and the drawing calls hold: a number as a rule, but also a truth value, a
text, or nothing. A truth value counts as 0 or 1.
-/

namespace Triplet

inductive Value where
  | missing
  | truth (b : Bool)
  | number (n : Number)
  | text (s : String)
  deriving DecidableEq

namespace Value

@[match_pattern] abbrev int (n : Int) : Value := number (.int n)

@[match_pattern] abbrev real (x : Float) : Value := number (.real x)

instance : Inhabited Value := ⟨missing⟩

def isText : Value → Bool
  | text _ => true
  | _ => false

def isReal : Value → Bool
  | real _ => true
  | _ => false

def toNumber : Value → Except Fault Number
  | truth b => .ok (.int b.toNat)
  | number n => .ok n
  | missing | text _ => .error .wrongKind

/-- Whether the value reads as a finite double. -/
def readsFinite : Value → Bool
  | missing => false
  | truth _ => true
  | number n => n.isFinite
  | text s => (Reading.double? s.toList).any Float.isFinite

/-- Replace what does not read as a finite double by zero. -/
def sanitize (v : Value) : Value := if v.readsFinite then v else int 0

def repeated (s : String) (count : Value) : Except Fault Value :=
  match count with
  | truth b => .ok (text (if b then s else ""))
  | int n =>
    if Nat.pow 2 63 ≤ n * s.length then .error .tooLarge
    else .ok (text (String.join (List.replicate n.toNat s)))
  | _ => .error .wrongKind

def add : Value → Value → Except Fault Value
  | text s, text t => .ok (text (s ++ t))
  | a, b => do return number (← (← a.toNumber).add (← b.toNumber))

def sub (a b : Value) : Except Fault Value := do
  return number (← (← a.toNumber).sub (← b.toNumber))

def mul : Value → Value → Except Fault Value
  | text s, b => repeated s b
  | a, text s => repeated s a
  | a, b => do return number (← (← a.toNumber).mul (← b.toNumber))

def floorDiv (a b : Value) : Except Fault Value := do
  return number (← (← a.toNumber).floorDiv (← b.toNumber))

/-- Values of different kinds are never equal. -/
def equal : Value → Value → Bool
  | missing, missing => true
  | text s, text t => s == t
  | a, b =>
    match a.toNumber, b.toNumber with
    | .ok m, .ok n => m.equal n
    | _, _ => false

def less : Value → Value → Except Fault Bool
  | text s, text t => .ok (s < t)
  | a, b => do return (← a.toNumber).less (← b.toNumber)

/-- The value, raised to a bound if it is less. -/
def atLeast (bound : Float) (v : Value) : Except Fault Value := do
  return if ← v.less (real bound) then real bound else v

/-- Cut off the fraction of a number, or read an integer from a text. -/
def truncate : Value → Except Fault Int
  | text s =>
    match Reading.int s.toList with
    | .ok n => .ok n
    | .error .notAnInteger => .error (.notAnInteger s)
    | .error (.tooManyDigits count) => .error (.tooManyDigits count)
  | v => do (← v.toNumber).truncate

/-- The value as it is shown in messages. -/
def display : Value → String
  | missing => "None"
  | truth b => if b then "True" else "False"
  | number n => n.write
  | text s => Text.quote s

end Value

end Triplet
