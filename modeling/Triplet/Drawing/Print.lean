import Triplet.Drawing.Canvas

/-! # Printing a canvas

A canvas is printed as a picture of pixels. Not every canvas that can be drawn on can be printed:
the picture must have pixels, but not too many, and its resolution must fit into a word.
-/

namespace Triplet

/-- Why a canvas cannot be printed. -/
inductive PrintError where
  | fault (f : Fault)
  /-- A side whose number of pixels is no word of 32 bits. -/
  | noWord
  | resolutionNotPositive
  | tooManyPixels (width height : Int)
  /-- A sheet without height. -/
  | flat
  /-- A line that is too thick for its outline to be computed. -/
  | lineTooThick
  /-- A resolution that is no word of 32 bits in pixels per meter. -/
  | resolutionTooLarge
  | noPixels
  deriving DecidableEq

/-- The text of the errors that have one. -/
def PrintError.message? : PrintError → Option String
  | fault f => f.message?
  | resolutionNotPositive => some "dpi must be positive"
  | tooManyPixels width height =>
    some (s!"Image size of {width}x{height} pixels is too large. " ++
      "It must be less than 2^23 in each direction.")
  | flat => some "'box_aspect' and 'fig_aspect' must be positive"
  | noWord | lineTooThick | resolutionTooLarge | noPixels => none

namespace Canvas

/-- Pictures have fewer pixels on each side. -/
def pixelLimit : Nat := Nat.pow 2 23

/-- Words of 32 bits are less. -/
def wordLimit : Nat := Nat.pow 2 32

/-- The number of pixels on the sides of a sheet, cut to integers. -/
def pixels (s : Sheet) : Except Fault (Int × Int) := do
  let side (n : Number) : Except Fault Int := do
    (← (Number.real (← n.div s.dpi)).mul s.dpi).truncate
  return (← side s.width, ← side s.height)

/-- The greatest resolution at which the square of the thickness of a line is a double. -/
def lineLimit : Float := 9.6e155

/-- The length of an inch in meters. -/
def inch : Float := 0.0254

/-- Check whether a canvas can be printed. -/
def checkPrint (c : Canvas) : Except PrintError Unit := do
  let (width, height) ← (pixels c.sheet).mapError .fault
  let dpi ← c.sheet.dpi.toDouble.mapError .fault
  if wordLimit ≤ width || wordLimit ≤ height then throw .noWord
  if dpi ≤ 0 then throw .resolutionNotPositive
  if pixelLimit ≤ width || pixelLimit ≤ height then throw (.tooManyPixels width height)
  if (← (c.sheet.height.div c.sheet.dpi).mapError .fault) == 0 then throw .flat
  if lineLimit < dpi && !(c.patches.isEmpty && c.dots.isEmpty) then throw .lineTooThick
  let perMeter ← (Number.real (dpi / inch + 0.5)).truncate.mapError .fault
  if wordLimit ≤ perMeter then throw .resolutionTooLarge
  if width = 0 || height = 0 then throw .noPixels

end Canvas

end Triplet
