import Triplet.Text.Quoted

/-! # Faults

The causes for which an operation on values or a drawing call fails.
-/

namespace Triplet

inductive Fault where
  /-- An operation does not take values of these kinds. -/
  | wrongKind
  /-- A number is too large for a double. -/
  | tooLarge
  | divisionByZero
  /-- No double can be computed from values of these kinds. -/
  | noDouble
  /-- A text stands for the size of a round shape. -/
  | textSize
  /-- A text does not read as an integer. -/
  | notAnInteger (text : String)
  /-- A text has more digits than an integer may have. -/
  | tooManyDigits (count : Nat)
  /-- A shape is turned by an infinite angle. -/
  | infiniteAngle
  /-- A corner of a shape lies infinitely far away. -/
  | infiniteCorner
  /-- A shape is drawn in a color with a component outside 0 to 1. -/
  | colorOutOfRange
  deriving DecidableEq, Repr

/-- How many characters of a text are shown. -/
def Fault.shownLength : Nat := 200

/-- The text of the faults that have one. -/
def Fault.message? : Fault → Option String
  | wrongKind | tooLarge | divisionByZero | noDouble | textSize | infiniteCorner => none
  | notAnInteger text =>
    let shown := (Text.quote text).toList.take shownLength
    some ("invalid literal for int() with base 10: " ++ String.ofList shown)
  | tooManyDigits count =>
    some ("Exceeds the limit (4300 digits) for integer string conversion: value has " ++
      toString count ++ " digits; use sys.set_int_max_str_digits() to increase the limit")
  | infiniteAngle => some "math domain error"
  | colorOutOfRange => some "RGBA values should be within 0-1 range"

end Triplet
