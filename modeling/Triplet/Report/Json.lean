import Triplet.Text.Quoted
import Triplet.Value

/-! # JSON documents

Documents are written in ASCII, on one line or with one item to a line. Members of an object keep
their order, and doubles keep their shortest decimals.
-/

namespace Triplet

inductive Json where
  | null
  | bool (b : Bool)
  | number (n : Number)
  | text (s : List Char)
  | list (items : List Json)
  | object (members : List (String × Json))

namespace Json

def int (n : Int) : Json := number (.int n)

def string (s : String) : Json := text s.toList

def ofOption {α : Type} (f : α → Json) : Option α → Json
  | none => null
  | some a => f a

def ofValue : Value → Json
  | .missing => null
  | .truth b => bool b
  | .number n => number n
  | .text s => string s

/-- Infinite values have long names. -/
def doubleLayout : DoubleLayout :=
  { DoubleLayout.standard with infinity := "Infinity", nan := "NaN" }

def writeNumber : Number → String
  | .int n => toString n
  | .real x => doubleLayout.write x

/-- The escape of a 16-bit unit. -/
def escapeUnit (n : Nat) : List Char := '\\' :: 'u' :: Text.hex 4 n

def escapeChar (c : Char) : List Char :=
  let n := c.toNat
  if c = '"' ∨ c = '\\' then ['\\', c]
  else if c = '\n' then ['\\', 'n']
  else if c = '\r' then ['\\', 'r']
  else if c = '\t' then ['\\', 't']
  else if n = 8 then ['\\', 'b']
  else if n = 12 then ['\\', 'f']
  else if 32 ≤ n ∧ n ≤ 126 then [c]
  else if n < 0x10000 then escapeUnit n
  else
    escapeUnit (0xD800 + (n - 0x10000) / 0x400) ++ escapeUnit (0xDC00 + (n - 0x10000) % 0x400)

def writeText (s : List Char) : String := String.ofList ('"' :: s.flatMap escapeChar ++ ['"'])

mutual

/-- Write a document on one line. -/
def compact : Json → String
  | null => "null"
  | bool b => if b then "true" else "false"
  | number n => writeNumber n
  | text s => writeText s
  | list items => "[" ++ compactItems items ++ "]"
  | object members => "\x7b" ++ compactMembers members ++ "\x7d"

def compactItems : List Json → String
  | [] => ""
  | [j] => j.compact
  | j :: rest => j.compact ++ ", " ++ compactItems rest

def compactMembers : List (String × Json) → String
  | [] => ""
  | [(key, j)] => writeText key.toList ++ ": " ++ j.compact
  | (key, j) :: rest => writeText key.toList ++ ": " ++ j.compact ++ ", " ++ compactMembers rest

end

/-- A new line with an indentation. -/
def newline (depth : Nat) : String := "\n" ++ String.ofList (List.replicate (2 * depth) ' ')

mutual

/-- Write a document with one item to a line, indented by two for each level. -/
def pretty (depth : Nat) : Json → String
  | null => "null"
  | bool b => if b then "true" else "false"
  | number n => writeNumber n
  | text s => writeText s
  | list [] => "[]"
  | list items => "[" ++ prettyItems (depth + 1) items ++ newline depth ++ "]"
  | object [] => "\x7b\x7d"
  | object members => "\x7b" ++ prettyMembers (depth + 1) members ++ newline depth ++ "\x7d"

def prettyItems (depth : Nat) : List Json → String
  | [] => ""
  | [j] => newline depth ++ j.pretty depth
  | j :: rest => newline depth ++ j.pretty depth ++ "," ++ prettyItems depth rest

def prettyMembers (depth : Nat) : List (String × Json) → String
  | [] => ""
  | [(key, j)] => newline depth ++ writeText key.toList ++ ": " ++ j.pretty depth
  | (key, j) :: rest =>
    newline depth ++ writeText key.toList ++ ": " ++ j.pretty depth ++ "," ++
      prettyMembers depth rest

end

end Json

end Triplet
