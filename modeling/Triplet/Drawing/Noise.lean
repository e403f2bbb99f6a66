import Triplet.Clamp
import Triplet.Random.Generator

/-! # Noise

A patch of noise is a disc of random dots. Its intensity decides the radius and the number of dots,
and its seed the dots themselves.
-/

namespace Triplet.Noise

/-- The greatest intensity. -/
def greatest : Nat := 64

/-- The dots of a patch without intensity, and those that each unit of intensity adds. -/
def leastDots : Nat := 10

def dotsPerUnit : Float := 5.0

/-- The intensity, between zero and the greatest. -/
def intensity (v : Value) : Except Fault Float := clamp v.sanitize (.int 0) (.int greatest)

/-- The radius and the number of dots of a patch on a surface of a width. -/
def size (given width : Value) : Except Fault (Float × Nat) := do
  let level ← intensity given
  let radius ← match width with
    | .text _ => throw .wrongKind
    | v => do pure (level / 64.0 * (← (← v.toNumber).toDouble))
  let dots ← (Number.real (level * dotsPerUnit)).truncate
  return (radius, dots.toNat + leastDots)

/-- The seed of a patch. -/
def seed (v : Value) : Except Fault Nat := do
  match v.sanitize with
  | .text _ => throw .wrongKind
  | v => return (← (← v.toNumber).abs.truncate).natAbs

/-- The number of radians in a full turn. -/
def turn : Float := 6.283185307179586

/-- The dots of a patch about its middle. All angles are drawn first, then all distances. -/
def points (given : Value) (intensity width : Value) : Except Fault (List (Float × Float)) := do
  let (radius, count) ← size intensity width
  let draws : Random.Draw (List Float × List Float) := do
    let angles ← Random.many count (Random.uniform 0.0 turn)
    let distances ← Random.many count (Random.uniform 0.0 1.0)
    return (angles, distances)
  let ((angles, distances), _) := draws.run (.ofSeed (← seed given))
  return List.zipWith (fun angle distance =>
    let r := radius * distance.sqrt
    (r * angle.cos, r * angle.sin)) angles distances

end Triplet.Noise
