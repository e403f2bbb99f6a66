import Triplet.Drawing.Ink
import Triplet.Drawing.Matrix
import Triplet.Value

/-! # Shapes

A shape has coordinates of its own; a matrix takes it to its place on the canvas.
-/

namespace Triplet

inductive Shape where
  | circle (radius : Float)
  | rectangle (x y width height : Float)
  /-- The outline of a closed polygon comes back to its first point. -/
  | polygon (points : List (Float × Float)) (closed : Bool)
  | ellipse (width height : Float)
  deriving DecidableEq

/-- A shape that is asked for. Some of what can be wrong with its size shows only when it is put
down. -/
abbrev Sketch := Except Fault Shape

namespace Shape

def name : Shape → String
  | circle _ => "Circle"
  | rectangle .. => "Rectangle"
  | polygon .. => "Polygon"
  | ellipse .. => "Ellipse"

/-- Whether the inside of the shape is painted. -/
def isFilled : Shape → Bool
  | polygon _ closed => closed
  | _ => true

/-- A number and its double, as doubles. -/
def withDouble (n : Number) : Except Fault (Float × Float) := do
  let twice ← (← n.mul (.int 2)).toDouble
  return (← n.toDouble, twice)

/-- A text may stand for the radius until the circle is put down. -/
def ofCircle (radius : Value) : Except Fault Sketch := do
  if radius.isText then return .error .textSize
  let radius ← radius.toNumber
  return (withDouble radius).map fun (r, _) => circle r

/-- A number divided by two, and the same with the opposite sign. -/
def halves (n : Number) : Except Fault (Float × Float) := do
  return (← (← Number.sub (.int 0) n).div (.int 2), ← n.div (.int 2))

def ofRectangle (width height : Value) : Except Fault Sketch := do
  let width ← width.toNumber
  let (x, _) ← halves width
  let height ← height.toNumber
  let (y, _) ← halves height
  return do return rectangle x y (← width.toDouble) (← height.toDouble)

/-- A polygon whose corners are finite. -/
def ofCorners (points : List (Float × Float)) (closed : Bool) : Sketch :=
  if points.all fun (x, y) => x.isFinite && y.isFinite then .ok (polygon points closed)
  else .error .infiniteCorner

def ofLine (length : Value) : Except Fault Sketch := do
  let (left, right) ← halves (← length.toNumber)
  return ofCorners [(left, 0), (right, 0)] false

/-- Close an outline, unless it ends where it begins. -/
def closeOutline (points : List (Float × Float)) : List (Float × Float) :=
  match points.head?, points.getLast? with
  | some p, some q => if p.1 == q.1 && p.2 == q.2 then points else points ++ [p]
  | _, _ => points

/-- An equilateral triangle that stands on its base. -/
def ofTriangle (size : Value) : Except Fault Sketch := do
  let size ← size.toNumber
  let height := (← size.toDouble) * Float.sqrt 3.0 / 2.0
  let (left, right) ← halves size
  let corners := [(0, -height / 2.0), (left, height / 2.0), (right, height / 2.0)]
  return ofCorners (closeOutline corners) true

def ofEllipse (rx ry : Value) : Except Fault Sketch := do
  let axis (r : Value) : Except Fault Number := if r.isText then .ok (.int 0) else r.toNumber
  let width ← axis rx
  let height ← axis ry
  if rx.isText || ry.isText then return .error .textSize
  return do return ellipse (← withDouble width).2 (← withDouble height).2

end Shape

/-- A shape with its ink, where it stands. -/
structure Patch where
  shape : Shape
  ink : Ink
  matrix : Matrix
  deriving DecidableEq

/-- Dots with their ink, where they stand. -/
structure Dots where
  points : List (Float × Float)
  ink : Ink
  matrix : Matrix
  deriving DecidableEq

end Triplet
