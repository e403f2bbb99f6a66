/-! # Longest common runs

The longest run of letters that two texts have in common, and of several such the one that comes
first in the first text. A table holds how many last letters each prefix of the one text shares with
each prefix of the other. While its rows are filled, the longest run so far is noted, and only a
longer one takes its place.
-/

namespace Triplet

/-- A run of the first text: how long it is, and how many letters there are up to its end. -/
structure FoundRun where
  length : Nat
  stop : Nat
  deriving DecidableEq, Repr

variable {α : Type} [DecidableEq α]

def FoundRun.letters (found : FoundRun) (a : List α) : List α :=
  (a.take found.stop).drop (found.stop - found.length)

/-- Fill the row of the letter `x`, up to which there are `i` letters. A cell is one more than the
cell before it in the row above, if the letters are the same. -/
def fillRow (x : α) (i : Nat) : List α → List Nat → FoundRun → List Nat × FoundRun
  | y :: b, n :: above, found =>
    if x = y then
      let found := if found.length < n + 1 then ⟨n + 1, i⟩ else found
      let rest := fillRow x i b above found
      ((n + 1) :: rest.1, rest.2)
    else
      let rest := fillRow x i b above found
      (0 :: rest.1, rest.2)
  | _, _, found => ([], found)

/-- The rows of a table, the last one first, and the longest run in it. -/
structure RunTable where
  rows : List (List Nat)
  found : FoundRun
  deriving DecidableEq, Repr

def RunTable.next (b : List α) (table : RunTable) (x : α) (i : Nat) : RunTable :=
  let row := fillRow x i b (table.rows.headD []) table.found
  ⟨(0 :: row.1) :: table.rows, row.2⟩

def runTable (a b : List α) : RunTable :=
  (a.zipIdx 1).foldl (fun table (x, i) => table.next b x i)
    ⟨[List.replicate (b.length + 1) 0], ⟨0, 0⟩⟩

def commonRun (a b : List α) : List α :=
  if a.isEmpty || b.isEmpty then [] else (runTable a b).found.letters a

end Triplet
