import Triplet.Drawing.InkText
import Triplet.Drawing.Noise
import Triplet.Drawing.Shape
import Triplet.Drawing.Surface

/-! # Canvases

A surface of a size in pixels, which is as wide as a range of values. Every number that comes in is
kept finite; shapes are kept with the matrix that takes them from values to pixels.
-/

namespace Triplet

/-- What a canvas is made of. -/
structure Sheet where
  width : Number
  height : Number
  /-- Pixels per inch. -/
  dpi : Number
  background : String
  /-- How many values the width stands for. -/
  range : Number
  deriving DecidableEq

def Sheet.default : Sheet := ⟨.int 400, .int 400, .int 100, "white", .int 64⟩

/-- Why there is no canvas on a sheet. -/
inductive SheetError where
  | fault (f : Fault)
  /-- A size in inches that is negative or not finite. -/
  | size (width height : Float)
  | background (e : InkError)
  deriving DecidableEq

def SheetError.message? : SheetError → Option String
  | fault f => f.message?
  | size width height =>
    some ("figure size must be positive finite not (" ++
      DoubleLayout.standard.write width ++ ", " ++ DoubleLayout.standard.write height ++ ")")
  | background e => some e.message

/-- The number of pixels per value. -/
def Sheet.unit (s : Sheet) : Except Fault Float := s.width.div s.range

structure Canvas where
  sheet : Sheet
  /-- Where the pen starts. -/
  home : Float × Float
  placement : Placement
  ink : Ink
  patches : Array Patch
  dots : Array Dots

namespace Canvas

/-- The blank canvas of a sheet with the pen at its home. -/
def blank (sheet : Sheet) (home : Float × Float) : Canvas where
  sheet := sheet
  home := home
  placement := ⟨.real home.1, .real home.2, .real 0, .real 1⟩
  ink := .black
  patches := #[]
  dots := #[]

/-- The middle of a sheet, in values. -/
def middle (s : Sheet) : Except Fault (Float × Float) := do
  let x ← s.range.div (.int 2)
  let y ← (← (Number.real x).mul s.height).div s.width
  return (x, y)

def ofSheet (s : Sheet) : Except SheetError Canvas := do
  let width ← (s.width.div s.dpi).mapError .fault
  let height ← (s.height.div s.dpi).mapError .fault
  let fits (x : Float) : Bool := x.isFinite && !(x < 0)
  if !fits width || !fits height then throw (.size width height)
  for n in [s.dpi, s.width, s.height] do
    let _ ← n.toDouble.mapError .fault
  let _ ← (Ink.read s.background).mapError .background
  let home ← (middle s).mapError .fault
  return blank s home

/-- The matrix from the coordinates of a shape to pixels. -/
def matrix (c : Canvas) : Except Fault Matrix := do
  let double (v : Value) : Except Fault Float := do (← v.toNumber).toDouble
  let offset (v : Value) : Except Fault Float :=
    if v.isText then .error .noDouble else double v
  let p := c.placement
  let scale ← double p.scale
  let rotation ← double p.rotation
  if rotation.isInf then throw .infiniteAngle
  let x ← offset p.x
  let y ← offset p.y
  let unit ← c.sheet.unit
  return Matrix.identity.scale scale |>.rotate rotation |>.translate x y |>.scale unit

/-- Change the canvas by a step that may fail. -/
def step (f : Canvas → Except Fault Canvas) : EStateM Fault Canvas Unit := fun c =>
  match f c with
  | .ok c => .ok () c
  | .error e => .error e c

/-- Change the placement by a step that may fail. -/
def move (f : Placement → Except Fault Placement) : EStateM Fault Canvas Unit :=
  step fun c => do return { c with placement := ← f c.placement }

/-- Draw a shape in the ink of the pen. -/
def paint (sketch : Except Fault Sketch) : EStateM Fault Canvas Unit :=
  step fun c => do
    let sketch ← sketch
    if !c.ink.isValid then throw .colorOutOfRange
    let matrix ← c.matrix
    let shape ← sketch
    return { c with patches := c.patches.push ⟨shape, c.ink, matrix⟩ }

/-- Scatter dots in the ink of the pen. -/
def scatter (seed intensity : Value) : EStateM Fault Canvas Unit :=
  step fun c => do
    let points ← Noise.points seed intensity (.number c.sheet.range)
    let matrix ← c.matrix
    if !c.ink.isValid then throw .colorOutOfRange
    return { c with dots := c.dots.push ⟨points, c.ink, matrix⟩ }

/-- The ink of a hue, a saturation and a lightness in values. -/
def inkOf (range : Number) (h s l : Value) : Except Fault Ink := do
  let part (v : Value) : Except Fault Float := do (← v.sanitize.toNumber).div range
  let unit (v : Value) : Except Fault Float := do
    clamp (.real (← part v)) (.real 0) (.real 1)
  let hue := flooredMod (← part h) 1.0
  let saturation ← unit s
  let lightness ← unit l
  return Ink.ofHueLightnessSaturation hue lightness saturation

def perform : Call → EStateM Fault Canvas Unit
  | .circle radius => paint (Shape.ofCircle radius)
  | .rect width height => paint (Shape.ofRectangle width height)
  | .line length => paint (Shape.ofLine length)
  | .triangle size => paint (Shape.ofTriangle size)
  | .ellipse rx ry => paint (Shape.ofEllipse rx ry)
  | .noise seed intensity => scatter seed intensity
  | .translate dx dy => do
    move fun p => do return { p with x := ← p.x.add dx.sanitize }
    move fun p => do return { p with y := ← p.y.add dy.sanitize }
  | .rotate degrees =>
    move fun p => do return { p with rotation := ← p.rotation.add degrees.sanitize }
  | .scale factor =>
    move fun p => do return { p with scale := ← (← p.scale.mul factor.sanitize).atLeast leastScale }
  | .setColor h s l => step fun c => do return { c with ink := ← inkOf c.sheet.range h s l }
  | .setPosition x y => move fun p => .ok { p with x := x.sanitize, y := y.sanitize }
  | .setRotation degrees => move fun p => .ok { p with rotation := degrees.sanitize }
  | .setScale scale =>
    move fun p => do return { p with scale := ← scale.sanitize.atLeast leastScale }

instance : Surface Canvas where
  clear c := blank c.sheet c.home
  placement := Canvas.placement
  perform := perform

end Canvas

end Triplet
