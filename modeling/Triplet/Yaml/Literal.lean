import Triplet.Yaml.Cursor

/-! # Block scalars of YAML

Lines of text below a bar or an angle, indented more than the line that they belong to. Below an
angle lines are joined by spaces. How the line breaks at the end are kept can be said.
-/

namespace Triplet.Yaml

/-- Which line breaks at the end of a block scalar are kept. -/
inductive Chomping where
  | none
  | one
  | all
  deriving DecidableEq

structure BlockHeader where
  chomping : Chomping
  /-- How far the text is indented, where it is said. -/
  indent? : Option Nat

def chomping? : Option Char → Option Chomping
  | some '+' => some .all
  | some '-' => some .none
  | _ => Option.none

def indicatedIndent? (letter? : Option Char) : Option Nat :=
  (letter?.filter Char.isDigit).map fun d => d.toNat - '0'.toNat

/-- Read how a block scalar is chomped and indented, in either order, and pass its line. -/
def blockHeader (c : Cursor) : Except Error (BlockHeader × Cursor) := do
  let skip {α : Type} (found : Option α) (c : Cursor) : Cursor :=
    if found.isSome then c.next else c
  let early? := chomping? c.peek?
  let c := skip early? c
  let indent? := indicatedIndent? c.peek?
  if indent? = some 0 then throw .unreadable
  let c := skip indent? c
  let late? := if early?.isNone && indent?.isSome then chomping? c.peek? else Option.none
  let c := skip late? c
  if !c.isWordEnd then throw .unreadable
  return (⟨(early? <|> late?).getD .one, indent?⟩, ← c.endLine)

/-- Pass spaces and line breaks; gives the breaks and how far the widest line is indented. -/
def widest : Nat → Nat → Cursor → List Char × Nat × Cursor
  | 0, width, c => ([], width, c)
  | n + 1, width, c =>
    if c.isAt ' ' then widest n (max width c.next.column) c.next
    else
      match c.takeBreak with
      | ([], c) => ([], width, c)
      | (text, c) =>
        let (more, width, c) := widest n width c
        (text ++ more, width, c)

/-- Pass spaces before column `indent`. -/
def skipIndent (indent : Nat) (c : Cursor) : Cursor :=
  c.forward ((c.rest.take (indent - c.column)).takeWhile (· = ' ')).length

/-- Pass empty lines; gives their breaks. -/
def blockBreaks (indent : Nat) : Nat → Cursor → List Char × Cursor
  | 0, c => ([], c)
  | n + 1, c =>
    match (skipIndent indent c).takeBreak with
    | ([], c) => ([], c)
    | (text, c) =>
      let (more, c) := blockBreaks indent n c
      (text ++ more, c)

/-- The lines of a block scalar, and the line breaks behind them. -/
structure BlockText where
  text : List Char
  lastBreak : List Char
  more : List Char
  cursor : Cursor

/-- Whether a line of the text begins here. -/
def isBlockLine (indent : Nat) (c : Cursor) : Bool := c.column = indent && !c.isAtEnd

def blockLines (isFolded : Bool) (indent : Nat) : Nat → List Char → Cursor → BlockText
  | 0, breaks, c => ⟨[], [], breaks, c⟩
  | n + 1, breaks, c =>
    if !isBlockLine indent c then ⟨[], [], breaks, c⟩
    else
      let isFlush (c : Cursor) : Bool := !c.peek?.any isBlank
      let startsFlush := isFlush c
      let (line, c) := c.takeWhile (!isBreak ·)
      let (lastBreak, c) := c.takeBreak
      let (next, c) := blockBreaks indent (c.rest.length + 1) c
      if isBlockLine indent c then
        let joint :=
          if isFolded && lastBreak = ['\n'] && startsFlush && isFlush c then
            if next.isEmpty then [' '] else []
          else lastBreak
        let rest := blockLines isFolded indent n next c
        { rest with text := breaks ++ line ++ joint ++ rest.text }
      else ⟨breaks ++ line, lastBreak, next, c⟩

/-- Read a block scalar, from its bar or angle on, below a line that is indented by `parent`. -/
def blockScalar (isFolded : Bool) (parent : Int) (c : Cursor) :
    Except Error (List Char × Cursor) := do
  let (header, c) ← blockHeader c.next
  let least := max (parent + 1).toNat 1
  let fuel := c.rest.length + 1
  let found :=
    match header.indent? with
    | some n =>
      let indent := least + n - 1
      let (breaks, c) := blockBreaks indent fuel c
      blockLines isFolded indent fuel breaks c
    | Option.none =>
      let (breaks, width, c) := widest fuel 0 c
      blockLines isFolded (max least width) fuel breaks c
  let tail :=
    match header.chomping with
    | .none => []
    | .one => found.lastBreak
    | .all => found.lastBreak ++ found.more
  return (found.text ++ tail, found.cursor)

end Triplet.Yaml
