/-! # Edit distance

The least number of letters to put in, take out or replace so that one text becomes another. A row
holds the distances from the letters of one text that were read to every prefix of the other. One
letter more costs to be taken out or replaced, and the row of these costs is then passed from left
to right, where letters are put in as far as that is cheaper.
-/

namespace Triplet

section Rows

variable {α : Type} [DecidableEq α]

/-- The costs of taking a letter out or of replacing it by the last letter of each prefix. -/
def replaceRow (x : α) (b : List α) (row : List Nat) : List Nat :=
  let cost := b.map fun y => if y = x then 0 else 1
  List.zipWith min (row.tail.map (· + 1)) (List.zipWith (· + ·) row.dropLast cost)

/-- Put letters in wherever it is cheaper, after a prefix that costs `left`. -/
def insertRow (left : Nat) : List Nat → List Nat
  | [] => []
  | n :: rest =>
    let n := if left + 1 < n then left + 1 else n
    n :: insertRow n rest

/-- The row of `i` letters, of which `x` is the last, from the row of those before it. -/
def nextRow (b : List α) (row : List Nat) (x : α) (i : Nat) : List Nat :=
  i :: insertRow i (replaceRow x b row)

def distanceRow (a b : List α) : List Nat :=
  (a.zipIdx 1).foldl (fun row (x, i) => nextRow b row x i) (List.range (b.length + 1))

def editDistance (a b : List α) : Nat := (distanceRow a b).getLastD 0

end Rows

/-- A character of a string in memory, where half of a surrogate pair can stand alone. -/
inductive CodePoint where
  | char (c : Char)
  | surrogate (n : Fin 0x800)
  deriving DecidableEq, Repr

/-- There is no encoding for the lone surrogate at a place. -/
structure EncodingError where
  place : Nat
  deriving DecidableEq, Repr

namespace CodePoint

def code : CodePoint → Nat
  | char c => c.toNat
  | surrogate n => 0xD800 + n

def isSurrogate : CodePoint → Bool
  | char _ => false
  | surrogate _ => true

/-- The codes of a string in UTF-32. -/
def utf32 (s : List CodePoint) : Except EncodingError (List Nat) :=
  match s.findIdx? isSurrogate with
  | some place => .error ⟨place⟩
  | none => .ok (s.map code)

/-- The edit distance of two strings; the second one is encoded first. -/
def distance (a b : List CodePoint) : Except EncodingError Nat := do
  let codes ← utf32 b
  return editDistance (a.map code) codes

end CodePoint

end Triplet
