import Triplet.Machine.Run

/-! # Trace tables

The snapshots of a run as a table of comma-separated values, one row to a snapshot. A column of
numbers is written as doubles throughout if it has a double or an empty cell, unless its integers
do not fit into machine words of one kind.
-/

namespace Triplet.Trace

def columns : List String :=
  ["step", "instruction_pointer", "opcode", "x", "y", "rotation", "scale", "h", "s", "l",
    "stack_depth", "stack_top", "state_depth"]

/-- The cells of a snapshot, in the order of the columns. -/
def row (index : Nat) (s : Snapshot) : List Value :=
  let p := s.pen.placement
  let c := s.pen.color
  [.int index, .int s.pointer, (s.last?.map fun op => .text op.name).getD .missing,
    p.x, p.y, p.rotation, p.scale, c.h, c.s, c.l,
    .int s.stack.length, s.stack.head?.getD .missing, .int s.saved.length]

/-- How the numbers of a column are written. -/
inductive Style where
  /-- Each cell by itself. -/
  | plain
  /-- All numbers as doubles. -/
  | doubles
  deriving DecidableEq, Repr

/-- Whether an integer is a signed or an unsigned word of 64 bits. -/
def isWord (n : Int) : Bool :=
  -0x8000000000000000 ≤ n && n < 0x10000000000000000

def needsPlain : Value → Bool
  | .int n => !isWord n
  | .truth _ | .text _ => true
  | _ => false

def needsDoubles : Value → Bool
  | .real _ | .missing => true
  | _ => false

/-- Whether an integer is a word only if words have a sign. -/
def isNegative : Value → Bool
  | .int n => n < 0
  | _ => false

/-- Whether an integer is a word only if words have no sign. -/
def isUnsigned : Value → Bool
  | .int n => 0x8000000000000000 ≤ n
  | _ => false

/-- An integer that is no word, or words of both kinds, stop the reading of a column before its
empty cells count. -/
def style (column : List Value) : Style :=
  if column.any needsPlain || (column.any isNegative && column.any isUnsigned) then .plain
  else if column.any needsDoubles then .doubles
  else .plain

/-- Quote a text that would break the table. -/
def field (s : String) : String :=
  if s.any fun c => c = ',' ∨ c = '"' ∨ c = '\n' then
    "\"" ++ String.ofList (s.toList.flatMap fun c => if c = '"' then ['"', '"'] else [c]) ++ "\""
  else s

def cell (style : Style) : Value → String
  | .missing => ""
  | .truth b => if b then "True" else "False"
  | .int n =>
    match style with
    | .plain => toString n
    | .doubles => DoubleLayout.standard.write (nearestDouble n)
  | .real x => if x.isNaN then "" else DoubleLayout.standard.write x
  | .text s => field s

/-- Put commas between cells. -/
def line (cells : List String) : String := ",".intercalate cells ++ "\n"

/-- The table of a run. -/
def table (states : List Snapshot) : String :=
  let rows := states.zipIdx.map fun (s, i) => row i s
  let styles := (List.range columns.length).map fun j => style (rows.map (·.getD j .missing))
  let body := rows.map fun cells => line (List.zipWith cell styles cells)
  line columns ++ String.join body

end Triplet.Trace
