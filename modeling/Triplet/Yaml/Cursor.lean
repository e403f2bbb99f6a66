import Triplet.Yaml.Error

/-! # Places in a YAML text

A cursor knows the rest of a text and how far it has come, by characters and by lines.
-/

namespace Triplet.Yaml

/-- The characters that end a line. -/
def isBreak (c : Char) : Bool :=
  c = '\n' || c.toNat = 0x85 || c.toNat = 0x2028 || c.toNat = 0x2029

/-- Spaces and tabs. -/
def isBlank (c : Char) : Bool := c = ' ' || c = '\t'

def isGap (c : Char) : Bool := isBlank c || isBreak c

/-- The letters of names. -/
def isNameLetter (c : Char) : Bool := c.isAlphanum || c = '-' || c = '_'

/-- The characters that end a scalar between brackets. -/
def isBracket (c : Char) : Bool := c = ',' || c = '[' || c = ']' || c = '\x7b' || c = '\x7d'

structure Cursor where
  rest : List Char
  index : Nat
  line : Nat
  column : Nat

namespace Cursor

def ofText (text : List Char) : Cursor := ⟨text, 0, 0, 0⟩

def peek? (c : Cursor) : Option Char := c.rest.head?

def isAt (c : Cursor) (letter : Char) : Bool := c.peek? = some letter

def isAtEnd (c : Cursor) : Bool := c.rest.isEmpty

/-- Pass one character. A mark of byte order takes no column. -/
def next (c : Cursor) : Cursor :=
  match c.rest with
  | [] => c
  | letter :: rest =>
    if isBreak letter then ⟨rest, c.index + 1, c.line + 1, 0⟩
    else ⟨rest, c.index + 1, c.line, if letter.toNat = 0xFEFF then c.column else c.column + 1⟩

def forward : Nat → Cursor → Cursor
  | 0, c => c
  | n + 1, c => forward n c.next

/-- The characters ahead that satisfy `p`, and where they end. -/
def takeWhile (p : Char → Bool) (c : Cursor) : List Char × Cursor :=
  let text := c.rest.takeWhile p
  (text, c.forward text.length)

def skipWhile (p : Char → Bool) (c : Cursor) : Cursor := (c.takeWhile p).2

def skipSpaces (c : Cursor) : Cursor := c.skipWhile (· = ' ')

/-- Pass the end of a line, if there is one; some ends of lines are read as newlines. -/
def takeBreak (c : Cursor) : List Char × Cursor :=
  match c.peek? with
  | none => ([], c)
  | some letter =>
    if letter = '\n' || letter.toNat = 0x85 then (['\n'], c.next)
    else if isBreak letter then ([letter], c.next)
    else ([], c)

/-- Whether a gap or the end of the text stands `n` characters ahead. -/
def isGapAt (c : Cursor) (n : Nat) : Bool := (c.rest.drop n).head?.all isGap

/-- Whether a space, the end of the line or the end of the text comes next. -/
def isWordEnd (c : Cursor) : Bool := c.peek?.all fun letter => letter = ' ' || isBreak letter

def isMark (mark : String) (c : Cursor) : Bool := mark.toList.isPrefixOf c.rest && c.isGapAt 3

/-- Whether a mark between documents stands here. -/
def isAnyMark (c : Cursor) : Bool := c.isMark "---" || c.isMark "..."

def skipComment (c : Cursor) : Cursor := if c.isAt '#' then c.skipWhile (!isBreak ·) else c

/-- Pass the rest of a line, which may hold a comment only. -/
def endLine (c : Cursor) : Except Error Cursor :=
  let c := c.skipSpaces.skipComment
  if c.peek?.all isBreak then .ok c.takeBreak.2 else .error .unreadable

/-- A name and what follows it. -/
def takeName (c : Cursor) : Except Error (List Char × Cursor) :=
  let (name, c) := c.takeWhile isNameLetter
  if name.isEmpty then .error .unreadable else .ok (name, c)

end Cursor

end Triplet.Yaml
