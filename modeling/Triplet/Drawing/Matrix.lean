/-! # Affine maps

A map of the plane that takes `(x, y)` to `(xx · x + xy · y + x₀, yx · x + yy · y + y₀)`. Maps are
built up step by step; each step is applied after those before it.
-/

namespace Triplet

structure Matrix where
  xx : Float
  xy : Float
  x₀ : Float
  yx : Float
  yy : Float
  y₀ : Float
  deriving DecidableEq

namespace Matrix

def identity : Matrix := ⟨1, 0, 0, 0, 1, 0⟩

def scale (factor : Float) (m : Matrix) : Matrix :=
  ⟨m.xx * factor, m.xy * factor, m.x₀ * factor, m.yx * factor, m.yy * factor, m.y₀ * factor⟩

/-- The number of radians in a degree. -/
def radian : Float := 3.141592653589793 / 180.0

def rotate (degrees : Float) (m : Matrix) : Matrix :=
  let a := Float.cos (degrees * radian)
  let b := Float.sin (degrees * radian)
  ⟨a * m.xx - b * m.yx, a * m.xy - b * m.yy, a * m.x₀ - b * m.y₀,
    b * m.xx + a * m.yx, b * m.xy + a * m.yy, b * m.x₀ + a * m.y₀⟩

def translate (dx dy : Float) (m : Matrix) : Matrix := { m with x₀ := m.x₀ + dx, y₀ := m.y₀ + dy }

/-- Where a point goes. -/
def apply (m : Matrix) (x y : Float) : Float × Float :=
  (m.xx * x + m.xy * y + m.x₀, m.yx * x + m.yy * y + m.y₀)

end Matrix

end Triplet
