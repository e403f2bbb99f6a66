import Triplet.Number.Reading
import Triplet.Text.Blank
import Triplet.Text.Lower

/-! # Styles

A style is a list of words: attributes, perhaps denied, a color, another color behind the text and
a link. Two texts name the same style if they have the same normal form.
-/

namespace Triplet.Console

/-- The names of the colors of a terminal. -/
def colorTable : List String := [
  "default aquamarine1 aquamarine3 black blue blue1 blue3 blue_violet bright_black bright_blue",
  "bright_cyan bright_green bright_magenta bright_red bright_white bright_yellow cadet_blue",
  "chartreuse1 chartreuse2 chartreuse3 chartreuse4 cornflower_blue cornsilk1 cyan cyan1 cyan2",
  "cyan3 dark_blue dark_cyan dark_goldenrod dark_green dark_khaki dark_magenta dark_olive_green1",
  "dark_olive_green2 dark_olive_green3 dark_orange dark_orange3 dark_red dark_sea_green",
  "dark_sea_green1 dark_sea_green2 dark_sea_green3 dark_sea_green4 dark_slate_gray1",
  "dark_slate_gray2 dark_slate_gray3 dark_turquoise dark_violet deep_pink1 deep_pink2 deep_pink3",
  "deep_pink4 deep_sky_blue1 deep_sky_blue2 deep_sky_blue3 deep_sky_blue4 dodger_blue1",
  "dodger_blue2 dodger_blue3 gold1 gold3 gray0 gray100 gray11 gray15 gray19 gray23 gray27 gray3",
  "gray30 gray35 gray37 gray39 gray42 gray46 gray50 gray53 gray54 gray58 gray62 gray63 gray66",
  "gray69 gray7 gray70 gray74 gray78 gray82 gray84 gray85 gray89 gray93 green green1 green3 green4",
  "green_yellow grey0 grey100 grey11 grey15 grey19 grey23 grey27 grey3 grey30 grey35 grey37 grey39",
  "grey42 grey46 grey50 grey53 grey54 grey58 grey62 grey63 grey66 grey69 grey7 grey70 grey74",
  "grey78 grey82 grey84 grey85 grey89 grey93 honeydew2 hot_pink hot_pink2 hot_pink3 indian_red",
  "indian_red1 khaki1 khaki3 light_coral light_cyan1 light_cyan3 light_goldenrod1 light_goldenrod2",
  "light_goldenrod3 light_green light_pink1 light_pink3 light_pink4 light_salmon1 light_salmon3",
  "light_sea_green light_sky_blue1 light_sky_blue3 light_slate_blue light_slate_gray",
  "light_slate_grey light_steel_blue light_steel_blue1 light_steel_blue3 light_yellow3 magenta",
  "magenta1 magenta2 magenta3 medium_orchid medium_orchid1 medium_orchid3 medium_purple",
  "medium_purple1 medium_purple2 medium_purple3 medium_purple4 medium_spring_green",
  "medium_turquoise medium_violet_red misty_rose1 misty_rose3 navajo_white1 navajo_white3",
  "navy_blue orange1 orange3 orange4 orange_red1 orchid orchid1 orchid2 pale_green1 pale_green3",
  "pale_turquoise1 pale_turquoise4 pale_violet_red1 pink1 pink3 plum1 plum2 plum3 plum4 purple",
  "purple3 purple4 red red1 red3 rosy_brown royal_blue1 salmon1 sandy_brown sea_green1 sea_green2",
  "sea_green3 sky_blue1 sky_blue2 sky_blue3 slate_blue1 slate_blue3 spring_green1 spring_green2",
  "spring_green3 spring_green4 steel_blue steel_blue1 steel_blue3 tan thistle1 thistle3 turquoise2",
  "turquoise4 violet wheat1 wheat4 white yellow yellow1 yellow2 yellow3 yellow4"]

def colorNames : List (List Char) := colorTable.flatMap fun line => Text.split ' ' line.toList

/-- A part of a color that is no number. -/
structure ColorError where
  text : List Char
  deriving DecidableEq, Repr

/-- What stands between a name with a bracket and a closing bracket. -/
def argument? (name : String) (word : List Char) : Option (List Char) :=
  if name.toList.isPrefixOf word && word.getLast? = some ')' then
    some ((word.drop name.length).dropLast)
  else none

/-- Whether a number is a byte. -/
def isByte (text : List Char) : Except ColorError Bool :=
  match Reading.int text with
  | .ok n => .ok (n ≤ 255)
  | .error _ => .error ⟨text⟩

/-- Whether a word in lower case is a color: a name, a hash sign and six digits, a number or three
numbers. -/
def isColor (word : List Char) : Except ColorError Bool :=
  if colorNames.contains word then .ok true
  else
    match word with
    | '#' :: digits =>
      .ok (digits.length = 6 && digits.all fun c => c.isDigit || ('a' ≤ c && c ≤ 'f'))
    | _ =>
      match argument? "color(" word, argument? "rgb(" word with
      | some digits, _ =>
        if digits.length ≤ 3 && !digits.isEmpty && digits.all Char.isDigit then isByte digits
        else .ok false
      | none, some inside =>
        if inside.isEmpty || !inside.all fun c => c = ',' || (Text.digitValue? c).isSome then
          .ok false
        else
          match Text.split ',' inside with
          | [red, green, blue] => do
            return (← isByte red) && (← isByte green) && (← isByte blue)
          | _ => .ok false
      | none, none => .ok false

/-- The attributes of a style, in the order of the normal form. -/
def attributes : List String :=
  ["bold", "dim", "italic", "underline", "blink", "blink2", "reverse", "conceal", "strike",
    "underline2", "frame", "encircle", "overline"]

/-- The short names of attributes. -/
def shortNames : List (String × String) :=
  [("b", "bold"), ("c", "conceal"), ("d", "dim"), ("i", "italic"), ("o", "overline"),
    ("r", "reverse"), ("s", "strike"), ("u", "underline"), ("uu", "underline2")]

def attribute? (word : List Char) : Option String :=
  let name := String.ofList word
  if attributes.contains name then some name else shortNames.lookup name

structure Style where
  /-- Attributes and whether they are set, the last first. -/
  set : List (String × Bool)
  color? : Option (List Char)
  background? : Option (List Char)
  link? : Option (List Char)
  deriving DecidableEq, Repr

namespace Style

def plain : Style := ⟨[], none, none, none⟩

/-- Read the words of a style. A word after another that asks for one must be there; there is no
style where a word is not known. -/
def ofWords (style : Style) : List (List Char) → Except ColorError (Option Style)
  | [] => .ok (some style)
  | word :: rest =>
    let lower := Text.lowerAll word
    if lower = "on".toList then
      match rest with
      | [] => .ok none
      | color :: rest => do
        let color := Text.lowerAll color
        if ← isColor color then ofWords { style with background? := some color } rest
        else return none
    else if lower = "not".toList then
      match rest with
      | [] => .ok none
      | word :: rest =>
        match attribute? word with
        | some name => ofWords { style with set := (name, false) :: style.set } rest
        | none => .ok none
    else if lower = "link".toList then
      match rest with
      | [] => .ok none
      | link :: rest => ofWords { style with link? := some link } rest
    else
      match attribute? lower with
      | some name => ofWords { style with set := (name, true) :: style.set } rest
      | none => do
        if ← isColor lower then ofWords { style with color? := some lower } rest
        else return none

/-- The normal form of a style. -/
def toText (style : Style) : List Char :=
  let set := attributes.filterMap fun name =>
    (style.set.lookup name).map fun isSet => (if isSet then name else "not " ++ name).toList
  let colors := style.color?.toList ++ (style.background?.toList.map ("on ".toList ++ ·))
  let words := set ++ colors ++ (style.link?.toList.map ("link ".toList ++ ·))
  if words.isEmpty then "none".toList else [' '].intercalate words

end Style

/-- Cut a text into words at blanks. -/
def words (text : List Char) : List (List Char) :=
  (Text.split ' ' (text.map fun c => if Text.isBlank c then ' ' else c)).filter (!·.isEmpty)

/-- The normal form of the name of a style; a name that is no style is only put in lower case. -/
def styleName (text : List Char) : Except ColorError (List Char) := do
  let name := Text.trim text
  if name = "none".toList then return name
  match ← Style.plain.ofWords (words text) with
  | some style => return style.toText
  | none => return Text.lowerAll name

end Triplet.Console
