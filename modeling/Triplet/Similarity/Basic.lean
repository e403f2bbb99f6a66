import Triplet.Genome.Strand
import Triplet.Similarity.CommonRun
import Triplet.Similarity.Distance
import Triplet.Usage.Tally
import Triplet.Value

/-! # Similar genomes

Two genomes are similar if few edits lead from one strand to the other, or if they have a long run
in common; a threshold says how much is enough.
-/

namespace Triplet

structure Similarity where
  lengthA : Nat
  lengthB : Nat
  distance : Nat
  common : List Char
  deriving DecidableEq, Repr

/-- A threshold that does not lie between zero and one. -/
structure ThresholdError where
  given : Value

def ThresholdError.message (e : ThresholdError) : String :=
  "threshold must be within [0, 1], got " ++ e.given.display

/-- The threshold of a comparison that is given none. -/
def defaultThreshold : Float := 0.8

/-- Read a threshold; only numbers can be compared with the bounds. -/
def readThreshold (v : Value) : Except Fault (Except ThresholdError Float) := do
  let n ← v.toNumber
  let within := !n.less (.int 0) && !(Number.int 1).less n && n.equal n
  if within then return .ok (← n.toDouble) else return .error ⟨v⟩

namespace Similarity

def ofTexts (a b : List Char) : Similarity :=
  let a := Genome.clean a
  let b := Genome.clean b
  ⟨a.length, b.length, editDistance a b, commonRun a b⟩

/-- The length of the longer strand. -/
def longest (s : Similarity) : Nat := max s.lengthA s.lengthB

variable {K : Type} [OfScientific K] [Div K]

/-- One less the edits per letter of the longer strand. -/
def editSimilarity [Sub K] (s : Similarity) : K := 1.0 - ratio s.distance s.longest

variable [LT K] [DecidableLT K]

/-- The greater of two numbers. -/
def greater (x y : K) : K := if x < y then y else x

/-- The part that the common run has in a strand, the greater of the two. -/
def commonRatio (s : Similarity) : K :=
  greater (ratio s.common.length s.lengthA) (ratio s.common.length s.lengthB)

def isSimilar [Sub K] (s : Similarity) (threshold : K) : Bool :=
  !(s.editSimilarity < threshold) || !(s.commonRatio < threshold)

end Similarity

end Triplet
