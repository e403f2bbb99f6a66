import Triplet.Genome.Strand

/-! # Comparing genomes

Two genomes are laid side by side codon by codon; where one has ended, it has an empty codon.
-/

namespace Triplet.Genome

/-- A place where two genomes have different codons. -/
structure Difference where
  place : Nat
  before : List Char
  after : List Char
  deriving DecidableEq, Repr

/-- The differences from a place on. -/
def differencesFrom (place : Nat) : List (List Char) → List (List Char) → List Difference
  | [], [] => []
  | a :: as, [] => at? place a [] ++ differencesFrom (place + 1) as []
  | [], b :: bs => at? place [] b ++ differencesFrom (place + 1) [] bs
  | a :: as, b :: bs => at? place a b ++ differencesFrom (place + 1) as bs
where
  at? (place : Nat) (a b : List Char) : List Difference := if a = b then [] else [⟨place, a, b⟩]

structure Comparison where
  before : List (List Char)
  after : List (List Char)
  differences : List Difference
  deriving DecidableEq, Repr

/-- The number of codons of the longer genome. -/
def Comparison.length (c : Comparison) : Nat := max c.before.length c.after.length

def Comparison.ofTexts (before after : List Char) : Comparison :=
  let a := split before
  let b := split after
  ⟨a, b, differencesFrom 0 a b⟩

end Triplet.Genome
