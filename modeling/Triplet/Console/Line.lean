import Triplet.Console.Markup
import Triplet.Text.Width

/-! # Lines

What a console shows of a text with markup: control characters are dropped, and a tab leads to the
next of the stops that stand eight columns apart.
-/

namespace Triplet.Console

/-- The control characters that a console would act upon. -/
def isControl (c : Char) : Bool := [7, 8, 11, 12, 13].contains c.toNat

def tabWidth : Nat := 8

/-- Write the tabs between the parts of a line as spaces, from a column on. A tab is one space at
least, which is measured with the part before it. -/
def joinTabs (column : Nat) : List (List Char) → List Char
  | [] => []
  | [part] => part
  | part :: rest =>
    let part := part ++ [' ']
    let reached := column + Text.width part
    let more := (tabWidth - reached % tabWidth) % tabWidth
    part ++ List.replicate more ' ' ++ joinTabs (reached + more) rest

/-- Write tabs as spaces. -/
def expandTabs (text : List Char) : List Char :=
  ['\n'].intercalate ((Text.lines text).map fun line => joinTabs 0 (Text.split '\t' line))

/-- What is shown of a text with markup. -/
def shown (markup : List Char) : Except MarkupError (List Char) := do
  return expandTabs ((← render markup).filter (!isControl ·))

end Triplet.Console
