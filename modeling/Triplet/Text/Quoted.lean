import Triplet.Text.Printable

/-! # Quoted text

A text between quotes, with escapes for the quote, the backslash and every character that does not
print. Single quotes are used unless the text has a single quote and no double quote.
-/

namespace Triplet.Text

def hexDigit (n : Nat) : Char := Nat.digitChar (n % 16)

/-- The last `places` hexadecimal digits of a number. -/
def hex : Nat → Nat → List Char
  | 0, _ => []
  | places + 1, n => hex places (n / 16) ++ [hexDigit n]

def quoteFor (text : List Char) : Char :=
  if text.contains '\'' && !text.contains '"' then '"' else '\''

def escape (quote : Char) (c : Char) : List Char :=
  if c = quote || c = '\\' then ['\\', c]
  else if c = '\t' then ['\\', 't']
  else if c = '\n' then ['\\', 'n']
  else if c = '\r' then ['\\', 'r']
  else if isPrintable c then [c]
  else if c.toNat < 0x100 then '\\' :: 'x' :: hex 2 c.toNat
  else if c.toNat < 0x10000 then '\\' :: 'u' :: hex 4 c.toNat
  else '\\' :: 'U' :: hex 8 c.toNat

def quoted (text : List Char) : List Char :=
  let quote := quoteFor text
  quote :: text.flatMap (escape quote) ++ [quote]

/-- Quote a string. -/
def quote (s : String) : String := String.ofList (quoted s.toList)

end Triplet.Text
