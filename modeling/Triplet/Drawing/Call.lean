import Triplet.Value

/-! # Drawing calls

What a machine asks of the surface it draws on: six shapes, and changes of the pen's place, turn,
size and color.
-/

namespace Triplet

inductive Call where
  | circle (radius : Value)
  | rect (width height : Value)
  | line (length : Value)
  | triangle (size : Value)
  | ellipse (rx ry : Value)
  | noise (seed intensity : Value)
  | translate (dx dy : Value)
  | rotate (degrees : Value)
  | scale (factor : Value)
  | setColor (h s l : Value)
  | setPosition (x y : Value)
  | setRotation (degrees : Value)
  | setScale (scale : Value)
  deriving DecidableEq

namespace Call

def name : Call → String
  | circle _ => "circle"
  | rect .. => "rect"
  | line _ => "line"
  | triangle _ => "triangle"
  | ellipse .. => "ellipse"
  | noise .. => "noise"
  | translate .. => "translate"
  | rotate _ => "rotate"
  | scale _ => "scale"
  | setColor .. => "set_color"
  | setPosition .. => "set_position"
  | setRotation _ => "set_rotation"
  | setScale _ => "set_scale"

def args : Call → List Value
  | circle r => [r]
  | rect w h => [w, h]
  | line n => [n]
  | triangle n => [n]
  | ellipse rx ry => [rx, ry]
  | noise seed intensity => [seed, intensity]
  | translate dx dy => [dx, dy]
  | rotate degrees => [degrees]
  | scale factor => [factor]
  | setColor h s l => [h, s, l]
  | setPosition x y => [x, y]
  | setRotation degrees => [degrees]
  | setScale n => [n]

/-- The call with a name and arguments, if there is one. -/
def ofName? : String → List Value → Option Call
  | "circle", [r] => some (circle r)
  | "rect", [w, h] => some (rect w h)
  | "line", [n] => some (line n)
  | "triangle", [n] => some (triangle n)
  | "ellipse", [rx, ry] => some (ellipse rx ry)
  | "noise", [seed, intensity] => some (noise seed intensity)
  | "translate", [dx, dy] => some (translate dx dy)
  | "rotate", [degrees] => some (rotate degrees)
  | "scale", [factor] => some (scale factor)
  | "set_color", [h, s, l] => some (setColor h s l)
  | "set_position", [x, y] => some (setPosition x y)
  | "set_rotation", [degrees] => some (setRotation degrees)
  | "set_scale", [n] => some (setScale n)
  | _, _ => none

/-- Whether the call draws a shape. -/
def isShape : Call → Bool
  | circle _ | rect .. | line _ | triangle _ | ellipse .. | noise .. => true
  | _ => false

end Call

end Triplet
