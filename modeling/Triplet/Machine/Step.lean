import Triplet.Machine.State

/-! # One instruction

The effect of each opcode on the stack, the pen and the surface. Start, stop, no-operation and loop
do nothing by themselves.
-/

namespace Triplet.Machine

variable {σ : Type} [Surface σ]

def ofTruth (b : Bool) : Value := .int b.toNat

/-- The result of an opcode that takes two values; division by zero gives zero. -/
def binary (op : Opcode) (a b : Value) : Except Fault Value :=
  match op with
  | .add => a.add b
  | .sub => a.sub b
  | .mul => a.mul b
  | .div => if b.equal (.int 0) then .ok (.int 0) else a.floorDiv b
  | .eq => .ok (ofTruth (a.equal b))
  | _ => (a.less b).map ofTruth

def movePen (f : Placement → Except Fault Placement) : Exec σ Unit := do
  let p ← attempt (f (← get).now.pen.placement)
  modifyNow fun s => { s with pen := { s.pen with placement := p } }

def stepTranslate : Exec σ Unit := do
  let dy ← pop
  let dx ← pop
  movePen fun p => do
    return { p with x := (← p.x.add dx).sanitize, y := (← p.y.add dy).sanitize }
  draw (.translate dx dy)

def stepRotate : Exec σ Unit := do
  let degrees ← pop
  movePen fun p => do return { p with rotation := (← p.rotation.add degrees).sanitize }
  draw (.rotate degrees)

def stepScale : Exec σ Unit := do
  let factor ← pop
  movePen fun p => do return { p with scale := ← rescale p.scale factor }
  draw (.scale factor)

def stepColor : Exec σ Unit := do
  let l ← pop
  let s ← pop
  let h ← pop
  modifyNow fun now => { now with pen := { now.pen with color := ⟨h, s, l⟩ } }
  draw (.setColor h s l)

def stepSave : Exec σ Unit := modifyNow fun s => { s with saved := s.pen :: s.saved }

/-- Bring back the pen saved last, if there is one. -/
def stepRestore : Exec σ Unit := do
  match (← get).now.saved with
  | [] => pure ()
  | pen :: rest =>
    modifyNow fun s => { s with pen, saved := rest }
    draw (.setPosition pen.placement.x pen.placement.y)
    draw (.setRotation pen.placement.rotation)
    draw (.setScale pen.placement.scale)
    draw (.setColor pen.color.h pen.color.s pen.color.l)

/-- Draw a shape with one measure from the stack. -/
def stepShape (shape : Value → Call) : Exec σ Unit := do
  draw (shape (← pop))

/-- Draw a shape with two measures from the stack, the second on top. -/
def stepShapePair (shape : Value → Value → Call) : Exec σ Unit := do
  let b ← pop
  let a ← pop
  draw (shape a b)

def stepBinary (op : Opcode) : Exec σ Unit := do
  let b ← pop
  let a ← pop
  push (← attempt (binary op a b))

/-- Execute one opcode; the operand is for `PUSH` alone. -/
def step (op : Opcode) (operand : Value) : Exec σ Unit := do
  match op with
  | .start | .nop | .stop | .loop => pure ()
  | .push => push operand
  | .dup =>
    let v ← pop
    push v
    push v
  | .pop =>
    let _ ← pop
  | .swap =>
    let b ← pop
    let a ← pop
    push b
    push a
  | .add | .sub | .mul | .div | .eq | .lt => stepBinary op
  | .circle => stepShape .circle
  | .rect => stepShapePair .rect
  | .line => stepShape .line
  | .triangle => stepShape .triangle
  | .ellipse => stepShapePair .ellipse
  | .translate => stepTranslate
  | .rotate => stepRotate
  | .scale => stepScale
  | .color => stepColor
  | .save => stepSave
  | .restore => stepRestore

end Triplet.Machine
