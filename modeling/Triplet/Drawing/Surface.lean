import Triplet.Drawing.Call

/-! # Surfaces

A surface performs drawing calls and knows where its pen is. A call that fails may leave part of
its effect.
-/

namespace Triplet

/-- Where a pen is, how far it is turned and how large it draws. -/
structure Placement where
  x : Value
  y : Value
  rotation : Value
  scale : Value
  deriving DecidableEq

class Surface (σ : Type) where
  /-- The blank surface with the pen at its start. -/
  clear : σ → σ
  placement : σ → Placement
  perform : Call → EStateM Fault σ Unit

/-- The least scale of a pen. -/
def leastScale : Float := 0.001

/-- Multiply a scale, replace what is not finite by zero, and keep to the least scale. -/
def rescale (scale factor : Value) : Except Fault Value := do
  (← scale.mul factor).sanitize.atLeast leastScale

end Triplet
