import Triplet.Yaml.Literal
import Triplet.Yaml.Quoted
import Triplet.Yaml.Tag

/-! # Reading YAML tokens

Tokens are read one after another as they are needed. That a token is a key is seen only at the
colon behind it, so a place is kept where a key may begin, as long as it is near enough and on the
same line. Outside of brackets, indentation opens and closes lists and tables.
-/

namespace Triplet.Yaml

/-- A place where a key may begin. -/
structure KeyPlace where
  /-- How many tokens stand before it. -/
  number : Nat
  /-- Whether nothing else can begin there. -/
  isRequired : Bool
  cursor : Cursor

structure Lexer where
  cursor : Cursor
  /-- Tokens that were read but not yet taken. -/
  queue : List Token
  taken : Nat
  isFinished : Bool
  /-- How many brackets are open; closing one too many leaves less than none. -/
  depth : Int
  indent : Int
  outer : List Int
  allowsKey : Bool
  /-- Places of keys, by the number of brackets around them. -/
  places : List (Int × KeyPlace)

def Lexer.ofText (text : List Char) : Lexer :=
  ⟨.ofText text, [], 0, false, 0, -1, [], true, []⟩

/-- Steps that read tokens. -/
abbrev Lexing := StateT Lexer (Except Error)

namespace Lexing

def isFlow : Lexing Bool := return (← get).depth ≠ 0

def emit (t : Token) : Lexing Unit := modify fun s => { s with queue := s.queue ++ [t] }

def move (c : Cursor) : Lexing Unit := modify fun s => { s with cursor := c }

def allowKey (b : Bool) : Lexing Unit := modify fun s => { s with allowsKey := b }

/-- The longest distance from a key to its colon. -/
def keyLimit : Nat := 1024

/-- Give up places of keys that are too far behind. -/
def dropStale : Lexing Unit := do
  let c := (← get).cursor
  let isStale (k : KeyPlace) : Bool :=
    k.cursor.line ≠ c.line || keyLimit < c.index - k.cursor.index
  if (← get).places.any fun (_, k) => k.isRequired && isStale k then throw .unreadable
  modify fun s => { s with places := s.places.filter fun (_, k) => !isStale k }

/-- Give up the place of a key between these brackets. -/
def dropKey : Lexing Unit := do
  let s ← get
  if s.places.any fun (depth, k) => depth = s.depth && k.isRequired then throw .unreadable
  modify fun s => { s with places := s.places.filter fun (depth, _) => depth ≠ s.depth }

/-- Keep this place as one where a key may begin. -/
def saveKey : Lexing Unit := do
  let s ← get
  if s.allowsKey then
    dropKey
    let place : KeyPlace :=
      ⟨s.taken + s.queue.length, s.depth = 0 && s.indent = s.cursor.column, s.cursor⟩
    modify fun s => { s with places := s.places ++ [(s.depth, place)] }

/-- Close the lists and tables that are indented more than `column`. -/
def closeTo (column : Int) : Lexing Unit := do
  let s ← get
  if s.depth = 0 then
    let indents := s.indent :: s.outer
    let closed := indents.takeWhile (column < ·)
    let left := indents.drop closed.length
    modify fun s => { s with
      queue := s.queue ++ closed.map fun _ => Token.blockEnd
      indent := left.headD (-1)
      outer := left.drop 1 }

/-- Note a deeper indentation; says whether it is deeper. -/
def deepen (column : Nat) : Lexing Bool := do
  if (← get).indent < column then
    modify fun s => { s with indent := column, outer := s.indent :: s.outer }
    return true
  else return false

/-- Begin a list or table outside of brackets, if it is indented more. -/
def openBlock (t : Token) : Lexing Unit := do
  let s ← get
  if s.depth = 0 then
    if !s.allowsKey then throw .unreadable
    if ← deepen s.cursor.column then emit t

/-- Pass spaces, comments and line breaks. After a line break outside of brackets a key may
follow. -/
def skipToToken : Nat → Lexing Unit
  | 0 => return
  | n + 1 => do
    match ((← get).cursor.skipSpaces.skipComment).takeBreak with
    | ([], c) => move c
    | (_, c) =>
      move c
      if !(← isFlow) then allowKey true
      skipToToken n

def readEnd : Lexing Unit := do
  closeTo (-1)
  dropKey
  modify fun s => { s with allowsKey := false, places := [], isFinished := true }
  emit .streamEnd

def readDirective : Lexing Unit := do
  closeTo (-1)
  dropKey
  allowKey false
  let (d, c) ← directive (← get).cursor
  move c
  emit (.directive d)

/-- A mark between documents. -/
def readMark (t : Token) : Lexing Unit := do
  closeTo (-1)
  dropKey
  allowKey false
  move ((← get).cursor.forward 3)
  emit t

/-- Pass a character that is a token. -/
def readSign (t : Token) : Lexing Unit := do
  move (← get).cursor.next
  emit t

def readOpening (t : Token) : Lexing Unit := do
  saveKey
  modify fun s => { s with depth := s.depth + 1, allowsKey := true }
  readSign t

def readClosing (t : Token) : Lexing Unit := do
  dropKey
  modify fun s => { s with depth := s.depth - 1, allowsKey := false }
  readSign t

def readComma : Lexing Unit := do
  allowKey true
  dropKey
  readSign .comma

def readDash : Lexing Unit := do
  openBlock .blockList
  allowKey true
  dropKey
  readSign .dash

def readKey : Lexing Unit := do
  openBlock .blockTable
  allowKey (!(← isFlow))
  dropKey
  readSign .key

/-- A colon makes a key of what stands at the place kept for one. -/
def readColon : Lexing Unit := do
  let s ← get
  match s.places.find? fun (depth, _) => depth = s.depth with
  | some (_, place) =>
    let opens ← if s.depth = 0 then deepen place.cursor.column else pure false
    let added := if opens then [Token.blockTable, .key] else [.key]
    let (before, after) := s.queue.splitAt (place.number - s.taken)
    modify fun s => { s with
      queue := before ++ added ++ after
      places := s.places.filter fun (depth, _) => depth ≠ s.depth
      allowsKey := false }
  | none =>
    openBlock .blockTable
    allowKey (!(← isFlow))
    dropKey
  readSign .colon

/-- A token that may begin a key and that no key may follow. -/
def readWord (read : Cursor → Except Error (Token × Cursor)) : Lexing Unit := do
  saveKey
  allowKey false
  let (t, c) ← read (← get).cursor
  move c
  emit t

def readBlockScalar (isFolded : Bool) : Lexing Unit := do
  allowKey true
  dropKey
  let s ← get
  let (text, c) ← blockScalar isFolded s.indent s.cursor
  move c
  emit (.scalar text false true)

def readPlain : Lexing Unit := do
  saveKey
  let s ← get
  let (text, hasBreak, c) := plain (← isFlow) (s.indent + 1) s.cursor
  allowKey hasBreak
  move c
  emit (.scalar text true true)

def readReference (c : Cursor) : Except Error (Token × Cursor) := do
  let (name, c) ← anchorName c
  return (.reference name, c)

def readAnchor (c : Cursor) : Except Error (Token × Cursor) := do
  let (name, c) ← anchorName c
  return (.anchor name, c)

def readQuoted (c : Cursor) : Except Error (Token × Cursor) := do
  let q ← quoted c
  return (.scalar q.text false q.isUnicode, q.cursor)

/-- Whether no plain scalar begins with this character, unless a word follows it. -/
def isIndicator (c : Char) : Bool :=
  isGap c || "-?:,[]\x7b\x7d#&*!|>'\"%@".toList.contains c || c.toNat = 96

/-- Read what begins with `letter`. -/
def readToken (letter : Char) : Lexing Unit := do
  let c := (← get).cursor
  let flow ← isFlow
  let isAlone := c.isGapAt 1
  let isFirst := c.column = 0
  match letter with
  | '[' => readOpening .openBracket
  | '\x7b' => readOpening .openBrace
  | ']' => readClosing .closeBracket
  | '\x7d' => readClosing .closeBrace
  | ',' => readComma
  | '*' => readWord readReference
  | '&' => readWord readAnchor
  | '!' => readWord tag
  | '\'' | '"' => readWord readQuoted
  | _ =>
    if letter = '%' && isFirst then readDirective
    else if isFirst && c.isMark "---" then readMark .documentStart
    else if isFirst && c.isMark "..." then readMark .documentEnd
    else if letter = '-' && isAlone then readDash
    else if letter = '?' && (flow || isAlone) then readKey
    else if letter = ':' && (flow || isAlone) then readColon
    else if letter = '|' && !flow then readBlockScalar false
    else if letter = '>' && !flow then readBlockScalar true
    else if !isIndicator letter then readPlain
    else if !isAlone && (letter = '-' || (!flow && (letter = '?' || letter = ':'))) then readPlain
    else throw .unreadable

/-- Read further tokens. -/
def readMore : Lexing Unit := do
  let c := (← get).cursor
  if c.index = 0 && c.peek?.any fun letter => letter.toNat = 0xFEFF then move c.next
  skipToToken ((← get).cursor.rest.length + 1)
  dropStale
  closeTo (← get).cursor.column
  match (← get).cursor.peek? with
  | none => readEnd
  | some letter => readToken letter

/-- Whether it is not yet known what the next token is. -/
def needsMore : Lexing Bool := do
  if (← get).isFinished then return false
  if (← get).queue.isEmpty then return true
  dropStale
  let s ← get
  return s.places.any fun (_, k) => k.number = s.taken

/-- Read until the next token is known. -/
def fill : Nat → Lexing Unit
  | 0 => return
  | n + 1 => do
    if ← needsMore then
      readMore
      fill n

/-- The next token. After the last there are only ends. -/
def peek : Lexing Token := do
  fill ((← get).cursor.rest.length + 2)
  return (← get).queue.headD .streamEnd

def skip : Lexing Unit := do
  modify fun s => { s with queue := s.queue.drop 1, taken := s.taken + 1 }

end Lexing

end Triplet.Yaml
