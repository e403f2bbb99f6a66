import Triplet.Text.Blank
import Triplet.Text.Case

/-! # Strands

A genome text holds letters, blanks and comments that run from a semicolon to the end of the line.
The letters alone, in upper case and with `U` read as `T`, are its strand.
-/

namespace Triplet.Genome

/-- A letter of a genome: the upper case of one character, and the line where it stands. -/
structure Letter where
  text : List Char
  line : Nat
  deriving DecidableEq, Repr

def isComment (c : Char) : Bool := c = ';'

/-- The part of a line before its comment. -/
def code (line : List Char) : List Char := line.takeWhile (!isComment ·)

/-- Raise a character; a lone `U` becomes `T`. -/
def raise (c : Char) : List Char :=
  let raised := Text.upper c
  if raised = ['U'] then ['T'] else raised

/-- The letters of the lines of a text, the first of which has the given number. -/
def lettersFrom (number : Nat) : List (List Char) → List Letter
  | [] => []
  | line :: rest =>
    ((code line).filter (!Text.isBlank ·)).map (fun c => ⟨raise c, number⟩) ++
      lettersFrom (number + 1) rest

/-- The letters of a text, with lines counted from one. -/
def letters (text : List Char) : List Letter := lettersFrom 1 (Text.lines text)

/-- The strand of a text. -/
def clean (text : List Char) : List Char := (letters text).flatMap (·.text)

/-- Cut into threes; a last piece may be shorter. -/
def triples {α : Type} : List α → List (List α)
  | a :: b :: c :: rest => [a, b, c] :: triples rest
  | [] => []
  | rest => [rest]

/-- The strand of a text, cut into codons. -/
def split (text : List Char) : List (List Char) := triples (clean text)

/-- Put a space between two pieces. -/
def joinCodons (codons : List (List Char)) : List Char := [' '].intercalate codons

/-- Cut letters into threes with a space between. -/
def format (strand : List Char) : List Char := joinCodons (triples strand)

end Triplet.Genome
