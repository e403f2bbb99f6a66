import Triplet.Console.EmojiName
import Triplet.Text.Blank
import Triplet.Text.Lower

/-! # Emoji codes

A name between colons is printed as the emoji it stands for. A name may end in a wish for the plain
or the colored form.
-/

namespace Triplet.Console

/-- The emoji with a name in any case. -/
def emoji? (name : List Char) : Option (List Char) :=
  emojiNames.lookup (String.ofList (Text.lowerAll name))

/-- Cut off an ending, if it is there. -/
def cutEnding? (ending text : List Char) : Option (List Char) :=
  if ending.isSuffixOf text then some (text.take (text.length - ending.length)) else none

/-- The emoji for a name, with its form. -/
def emojiFor? (name : List Char) : Option (List Char) :=
  match cutEnding? "-text".toList name, cutEnding? "-emoji".toList name with
  | some base, _ => (emoji? base).map (· ++ [Char.ofNat 0xFE0E])
  | none, some base => (emoji? base).map (· ++ [Char.ofNat 0xFE0F])
  | none, none => emoji? name

/-- Replace the codes in a text. What follows an open colon waits, last character first, until a
colon ends the name or a blank shows that there is none. -/
def replaceFrom (waiting? : Option (List Char)) : List Char → List Char
  | [] => (waiting?.map fun name => ':' :: name.reverse).getD []
  | c :: rest =>
    match waiting? with
    | none => if c = ':' then replaceFrom (some []) rest else c :: replaceFrom none rest
    | some name =>
      if c = ':' then
        (emojiFor? name.reverse).getD (':' :: name.reverse ++ [':']) ++ replaceFrom none rest
      else if Text.isBlank c then ':' :: name.reverse ++ c :: replaceFrom none rest
      else replaceFrom (some (c :: name)) rest

def replaceEmoji (text : List Char) : List Char := replaceFrom none text

end Triplet.Console
