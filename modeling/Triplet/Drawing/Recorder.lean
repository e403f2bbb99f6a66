import Triplet.Drawing.Surface

/-! # Recorders

A surface that keeps the list of its calls and follows the pen, but draws nothing. Its position and
rotation are plain sums; only its scale is kept finite.
-/

namespace Triplet

structure Recorder where
  placement : Placement
  color : Value × Value × Value
  calls : Array Call

namespace Recorder

def blank : Recorder where
  placement := ⟨.real 0, .real 0, .real 0, .real 1⟩
  color := (.real 0, .real 0, .real 0)
  calls := #[]

/-- Change the placement by a step that may fail. -/
def move (f : Placement → Except Fault Placement) : EStateM Fault Recorder Unit := fun r =>
  match f r.placement with
  | .ok p => .ok () { r with placement := p }
  | .error e => .error e r

def record (call : Call) : EStateM Fault Recorder Unit :=
  modify fun r => { r with calls := r.calls.push call }

def perform (call : Call) : EStateM Fault Recorder Unit := do
  match call with
  | .translate dx dy =>
    move fun p => do return { p with x := ← p.x.add dx }
    move fun p => do return { p with y := ← p.y.add dy }
  | .rotate degrees => move fun p => do return { p with rotation := ← p.rotation.add degrees }
  | .scale factor => move fun p => do return { p with scale := ← rescale p.scale factor }
  | .setColor h s l => modify fun r => { r with color := (h, s, l) }
  | .setPosition x y => move fun p => .ok { p with x, y }
  | .setRotation degrees => move fun p => .ok { p with rotation := degrees }
  | .setScale scale =>
    move fun p => do return { p with scale := ← scale.sanitize.atLeast leastScale }
  | _ => pure ()
  record call

instance : Surface Recorder where
  clear _ := blank
  placement := Recorder.placement
  perform := perform

/-- The recorded calls that draw a shape. -/
def shapes (r : Recorder) : List Call := r.calls.toList.filter Call.isShape

end Recorder

end Triplet
