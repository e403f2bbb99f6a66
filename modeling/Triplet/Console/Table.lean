import Triplet.Console.Line

/-! # Tables

A table has a title, a heading for each column and rows of cells, all with markup. Columns are as
wide as the widest of their texts.
-/

namespace Triplet.Console

inductive Side where
  | left
  | right
  deriving DecidableEq, Repr

structure Column where
  heading : String
  side : Side
  deriving DecidableEq, Repr

structure Table where
  title : String
  columns : List Column
  rows : List (List String)
  deriving DecidableEq, Repr

def spaces (n : Nat) : List Char := List.replicate n ' '

/-- A text with spaces on the other side, up to a width. A joiner at the end of the text can hide a
space, and then there is one more. -/
def pad (side : Side) (width : Nat) (text : List Char) : List Char :=
  let blank := spaces (width - Text.width text)
  let padded :=
    match side with
    | .left => text ++ blank
    | .right => blank ++ text
  padded ++ spaces (width - Text.width padded)

/-- A text in the middle of a width; an odd space comes last. -/
def center (width : Nat) (text : List Char) : List Char :=
  let free := width - Text.width text
  spaces (free / 2) ++ text ++ spaces (free - free / 2)

/-- The characters at the start of a line of a table, between columns, and at its end. -/
structure Frame where
  first : Char
  between : Char
  last : Char
  deriving DecidableEq, Repr

/-- A line of a table from what stands in its columns. -/
def Frame.line (f : Frame) (parts : List (List Char)) : List Char :=
  f.first :: [f.between].intercalate parts ++ [f.last]

/-- A line that is drawn across all columns. -/
def Frame.rule (f : Frame) (c : Char) (widths : List Nat) : List Char :=
  f.line (widths.map fun w => List.replicate (w + 2) c)

/-- A line of cells, each with a space on both sides. -/
def Frame.cells (f : Frame) (sides : List Side) (widths : List Nat) (cells : List (List Char)) :
    List Char :=
  f.line ((sides.zip (widths.zip cells)).map fun (side, width, cell) =>
    ' ' :: pad side width cell ++ [' '])

/-- The width of each column of some rows. -/
def columnWidths (count : Nat) (rows : List (List (List Char))) : List Nat :=
  (List.range count).map fun i => (rows.map fun row => Text.width (row.getD i [])).foldl max 0

/-- The lines of a table. -/
def Table.lines (t : Table) : Except MarkupError (List (List Char)) := do
  let title ← shown t.title.toList
  let headings ← t.columns.mapM fun c => shown c.heading.toList
  let rows ← t.rows.mapM fun row => row.mapM fun cell => shown cell.toList
  let widths := columnWidths t.columns.length (headings :: rows)
  let sides := t.columns.map (·.side)
  let top := Frame.rule ⟨'┏', '┳', '┓'⟩ '━' widths
  let body := rows.map (Frame.cells ⟨'│', '│', '│'⟩ sides widths)
  return [center top.length title, top, Frame.cells ⟨'┃', '┃', '┃'⟩ sides widths headings,
    Frame.rule ⟨'┡', '╇', '┩'⟩ '━' widths] ++ body ++ [Frame.rule ⟨'└', '┴', '┘'⟩ '─' widths]

end Triplet.Console
