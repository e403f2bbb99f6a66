import Triplet.Opcode

/-! # Opcode families

The opcodes fall into eight families by what they do.
-/

namespace Triplet

inductive Family where
  | control | drawing | transform | stack | utility | arithmetic | comparison | iteration
  deriving DecidableEq, Repr

namespace Family

def all : List Family :=
  [control, drawing, transform, stack, utility, arithmetic, comparison, iteration]

def name : Family → String
  | control => "control"
  | drawing => "drawing"
  | transform => "transform"
  | stack => "stack"
  | utility => "utility"
  | arithmetic => "arithmetic"
  | comparison => "comparison"
  | iteration => "iteration"

end Family

def Opcode.family : Opcode → Family
  | .start | .stop => .control
  | .circle | .rect | .line | .triangle | .ellipse => .drawing
  | .translate | .rotate | .scale | .color => .transform
  | .push | .dup | .pop | .swap => .stack
  | .nop | .save | .restore => .utility
  | .add | .sub | .mul | .div => .arithmetic
  | .eq | .lt => .comparison
  | .loop => .iteration

end Triplet
