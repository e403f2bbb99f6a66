import Triplet.Drawing.Canvas

/-! # Rasters

A raster holds the colors of the pixels of a picture, row by row. A pixel gets the ink of a shape
if its middle lies in the shape.
-/

namespace Triplet

/-- The map that undoes a map. -/
def Matrix.inverse (m : Matrix) : Matrix :=
  let d := m.xx * m.yy - m.xy * m.yx
  ⟨m.yy / d, -m.xy / d, (m.xy * m.y₀ - m.yy * m.x₀) / d,
    -m.yx / d, m.xx / d, (m.yx * m.x₀ - m.xx * m.y₀) / d⟩

namespace Shape

/-- Whether an edge crosses the ray that goes right from a point. -/
def crosses (x y : Float) (p q : Float × Float) : Bool :=
  (y < p.2) != (y < q.2) && x < (q.1 - p.1) * (y - p.2) / (q.2 - p.2) + p.1

/-- Whether a point lies in a shape that is filled. -/
def covers (x y : Float) : Shape → Bool
  | circle radius => x * x + y * y ≤ radius * radius
  | rectangle left top width height =>
    let inside (a length at₀ : Float) : Bool := 0 ≤ (at₀ - a) * (a + length - at₀)
    inside left width x && inside top height y
  | ellipse width height =>
    let u := 2 * x / width
    let v := 2 * y / height
    u * u + v * v ≤ 1
  | polygon points closed =>
    closed && ((points.zip points.tail).filter fun (p, q) => crosses x y p q).length % 2 == 1

/-- The corners of a box around a shape. -/
def corners : Shape → List (Float × Float)
  | circle r => [(-r, -r), (r, -r), (-r, r), (r, r)]
  | rectangle x y w h => [(x, y), (x + w, y), (x, y + h), (x + w, y + h)]
  | ellipse w h => [(-w / 2, -h / 2), (w / 2, -h / 2), (-w / 2, h / 2), (w / 2, h / 2)]
  | polygon points _ => points

end Shape

namespace Picture

structure Raster where
  width : Nat
  height : Nat
  pixels : Array Ink

/-- The pixels from one on and before another, along one side. -/
structure Span where
  start : Nat
  stop : Nat

/-- The pixels of a side that numbers with some margin may touch. -/
def Span.around (size : Nat) (margin : Float) (numbers : List Float) : Span :=
  let least := numbers.foldl min (Float.ofNat size)
  let greatest := numbers.foldl max 0
  ⟨(least - margin).floor.toUInt64.toNat, min size ((greatest + margin).ceil.toUInt64.toNat)⟩

namespace Raster

def blank (width height : Nat) (ink : Ink) : Raster :=
  ⟨width, height, Array.replicate (width * height) ink⟩

/-- Give an ink to the pixels near some points whose middles pass a test. -/
def paint (r : Raster) (ink : Ink) (margin : Float) (points : List (Float × Float))
    (test : Float → Float → Bool) : Raster :=
  let columns := Span.around r.width margin (points.map (·.1))
  let rows := Span.around r.height margin (points.map (·.2))
  let places := fun (pixels : Array Ink) (y : Nat) =>
    (List.range' columns.start (columns.stop - columns.start)).foldl (fun pixels x =>
      if test (Float.ofNat x + 0.5) (Float.ofNat y + 0.5) then
        pixels.setIfInBounds (y * r.width + x) ink
      else pixels) pixels
  { r with pixels := (List.range' rows.start (rows.stop - rows.start)).foldl places r.pixels }

/-- Draw lines of a thickness from point to point. -/
def stroke (r : Raster) (ink : Ink) (thickness : Float) (points : List (Float × Float)) : Raster :=
  (points.zip points.tail).foldl (fun r (p, q) =>
    let dx := q.1 - p.1
    let dy := q.2 - p.2
    let square := dx * dx + dy * dy
    r.paint ink thickness [p, q] fun x y =>
      let along := if square == 0 then 0 else ((x - p.1) * dx + (y - p.2) * dy) / square
      let along := max 0 (min 1 along)
      let u := x - (p.1 + along * dx)
      let v := y - (p.2 + along * dy)
      u * u + v * v ≤ thickness * thickness / 4) r

def draw (r : Raster) (thickness : Float) (p : Patch) : Raster :=
  let points := p.shape.corners.map fun (x, y) => p.matrix.apply x y
  if p.shape.isFilled then
    let inverse := p.matrix.inverse
    r.paint p.ink 1 points fun x y =>
      let (u, v) := inverse.apply x y
      p.shape.covers u v
  else r.stroke p.ink thickness points

/-- Draw dots of one pixel each. -/
def scatter (r : Raster) (d : Dots) : Raster :=
  d.points.foldl (fun r (x, y) =>
    let (u, v) := d.matrix.apply x y
    r.paint d.ink 1 [(u, v)] fun x y => (x - u).abs ≤ 0.5 && (y - v).abs ≤ 0.5) r

end Raster

/-- The pixels of a canvas. A line is as thick as the seventy-second part of an inch. -/
def ofCanvas (c : Canvas) : Raster :=
  let side (n : Number) : Nat := (n.truncate.toOption.getD 0).toNat
  let dpi := c.sheet.dpi.toDouble.toOption.getD 72
  let paper := ((Ink.read c.sheet.background).toOption.bind id).getD ⟨1, 1, 1⟩
  let start := Raster.blank (side c.sheet.width) (side c.sheet.height) paper
  c.dots.foldl Raster.scatter (c.patches.foldl (fun r p => r.draw (max 1 (dpi / 72)) p) start)

end Picture

end Triplet
