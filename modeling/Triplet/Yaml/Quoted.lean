import Triplet.Text.Digit
import Triplet.Yaml.Plain

/-! # Quoted YAML scalars

Between single quotes a quote is doubled; between double quotes a backslash begins an escape. Line
breaks are folded as in plain scalars.
-/

namespace Triplet.Yaml

/-- The character that a letter after a backslash stands for. -/
def escape? : Char → Option Char
  | '0' => some (Char.ofNat 0)
  | 'a' => some (Char.ofNat 7)
  | 'b' => some (Char.ofNat 8)
  | 't' | '\t' => some '\t'
  | 'n' => some '\n'
  | 'v' => some (Char.ofNat 11)
  | 'f' => some (Char.ofNat 12)
  | 'r' => some '\r'
  | 'e' => some (Char.ofNat 27)
  | ' ' => some ' '
  | '"' => some '"'
  | '\\' => some '\\'
  | '/' => some '/'
  | 'N' => some (Char.ofNat 0x85)
  | '_' => some (Char.ofNat 0xA0)
  | 'L' => some (Char.ofNat 0x2028)
  | 'P' => some (Char.ofNat 0x2029)
  | _ => none

/-- How many hexadecimal digits follow a letter after a backslash. -/
def escapeLength? : Char → Option Nat
  | 'x' => some 2
  | 'u' => some 4
  | 'U' => some 8
  | _ => none

/-- The character with a number. -/
def charOf (n : Nat) : Except Error Char :=
  if Nat.pow 2 31 ≤ n then .error (.scalar .noWord)
  else if 0x110000 ≤ n then .error (.scalar .noCharacter)
  else .ok (Char.ofNat n)

/-- Numbers that are one half of a pair, which alone are no characters. -/
def isHalf (n : Nat) : Bool := 0xD800 ≤ n && n < 0xE000

/-- Pass blanks and line breaks; no mark between documents may stand among them. -/
def quotedBreaks : Nat → Cursor → Except Error (List Char × Cursor)
  | 0, c => .ok ([], c)
  | n + 1, c =>
    if c.isAnyMark then .error .unreadable
    else
      match (c.skipWhile isBlank).takeBreak with
      | ([], c) => .ok ([], c)
      | (text, c) => (quotedBreaks n c).map fun (more, c) => (text ++ more, c)

/-- How a gap inside quotes is read. -/
def quotedGap (c : Cursor) : Except Error (List Char × Cursor) :=
  let (blanks, c) := c.takeWhile isBlank
  match c.takeBreak with
  | ([], c) => .ok (blanks, c)
  | (first, c) => do
    let (more, c) ← quotedBreaks (c.rest.length + 1) c
    return (foldBreaks first more, c)

/-- A text, whether it is Unicode, and what follows it. -/
structure QuotedText where
  text : List Char
  isUnicode : Bool
  cursor : Cursor

def QuotedText.prepend (text : List Char) (q : QuotedText) : QuotedText :=
  { q with text := text ++ q.text }

/-- Read what follows the opening quote. -/
def quotedFrom (isDouble : Bool) : Nat → Cursor → Except Error QuotedText
  | 0, _ => .error .unreadable
  | n + 1, c =>
    let letter (text : List Char) (c : Cursor) : Except Error QuotedText :=
      (quotedFrom isDouble n c).map (·.prepend text)
    match c.rest with
    | [] => .error .unreadable
    | '\'' :: more =>
      if isDouble then letter ['\''] c.next
      else if more.head? = some '\'' then letter ['\''] (c.forward 2)
      else .ok ⟨[], true, c.next⟩
    | '"' :: _ => if isDouble then .ok ⟨[], true, c.next⟩ else letter ['"'] c.next
    | '\\' :: more =>
      if !isDouble then letter ['\\'] c.next
      else
        match more with
        | [] => .error .unreadable
        | e :: digits =>
          match escape? e, escapeLength? e with
          | some d, _ => letter [d] (c.forward 2)
          | none, some count => do
            let digits := (digits.take count).takeWhile Text.isHexDigit
            if digits.length < count then throw .unreadable
            let d ← charOf (Text.hexNumber digits)
            let q ← letter [d] (c.forward (2 + count))
            return { q with isUnicode := q.isUnicode && !isHalf (Text.hexNumber digits) }
          | none, none =>
            if isBreak e then do
              let (text, c) ← quotedBreaks (more.length + 1) (c.forward 2)
              letter text c
            else .error .unreadable
    | d :: _ =>
      if isGap d then do
        let (text, c) ← quotedGap c
        letter text c
      else letter [d] c.next

/-- Read a quoted scalar, from its quote on. -/
def quoted (c : Cursor) : Except Error QuotedText :=
  quotedFrom (c.isAt '"') (c.rest.length + 1) c.next

end Triplet.Yaml
