import Triplet.Number

/-! # Ink

A color of three components, red, green and blue, each from zero to one. Pens choose it by hue,
saturation and lightness.
-/

namespace Triplet

structure Ink where
  red : Float
  green : Float
  blue : Float
  deriving DecidableEq

namespace Ink

def black : Ink := ⟨0, 0, 0⟩

/-- The strength of one component at a hue, between a least and a greatest strength. -/
def component (least greatest hue : Float) : Float :=
  let hue := flooredMod hue 1.0
  if hue < 1.0 / 6.0 then least + (greatest - least) * hue * 6.0
  else if hue < 0.5 then greatest
  else if hue < 2.0 / 3.0 then least + (greatest - least) * (2.0 / 3.0 - hue) * 6.0
  else least

def ofHueLightnessSaturation (hue lightness saturation : Float) : Ink :=
  if saturation == 0 then ⟨lightness, lightness, lightness⟩
  else
    let greatest :=
      if lightness ≤ 0.5 then lightness * (1.0 + saturation)
      else lightness + saturation - lightness * saturation
    let least := 2.0 * lightness - greatest
    let strength := component least greatest
    ⟨strength (hue + 1.0 / 3.0), strength hue, strength (hue - 1.0 / 3.0)⟩

/-- Whether no component lies outside zero to one. -/
def isValid (i : Ink) : Bool := [i.red, i.green, i.blue].all fun x => !(x < 0) && !(1 < x)

end Ink

end Triplet
