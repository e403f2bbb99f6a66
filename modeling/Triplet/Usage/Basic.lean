import Triplet.Genome.Token
import Triplet.Usage.Family
import Triplet.Usage.Tally

/-! # Codon usage

How often each codon of a token stream occurs, operands included. Every codon counts for the opcode
that it names, and its first two letters for its box of the codon table.
-/

namespace Triplet

structure Usage where
  total : Nat
  codons : Tally (List Char)
  opcodes : Tally Opcode
  boxes : Tally (List Char)
  /-- The number of letters `G` and `C`. -/
  strong : Nat
  /-- The number of letters `A` and `T`. -/
  weak : Nat
  deriving DecidableEq

namespace Usage

def ofCodons (codons : List (List Char)) : Usage where
  total := codons.length
  codons := .ofList codons
  opcodes := .ofList (codons.filterMap Codon.opcode?)
  boxes := .ofList (codons.map (·.take 2))
  strong := codons.flatten.countP fun c => c = 'G' || c = 'C'
  weak := codons.flatten.countP fun c => c = 'A' || c = 'T'

def ofTokens (tokens : List Token) : Usage := ofCodons (tokens.map fun t => Codon.normalize t.codon)

/-- The number of codons that name an opcode of a family. -/
def familyCount (u : Usage) (f : Family) : Nat :=
  Tally.total (u.opcodes.filter (·.1.family = f))

/-- The number of different opcodes. -/
def variety (u : Usage) : Nat := u.opcodes.length

/-- How many entries the lists of the most frequent codons and opcodes have. -/
def topLength : Nat := 5

section

variable {K : Type} [OfScientific K] [Div K]

/-- Different opcodes per codon. -/
def complexity (u : Usage) : K := ratio u.variety u.total

/-- Codons per different opcode. -/
def redundancy (u : Usage) : K := ratio u.total (max u.variety 1)

variable [Mul K]

def gcContent (u : Usage) : K := percent u.strong (max (u.strong + u.weak) 1)

def atContent (u : Usage) : K := percent u.weak (max (u.strong + u.weak) 1)

/-- The codons of a family in percent of all. -/
def familyShare (u : Usage) (f : Family) : K := percent (u.familyCount f) u.total

/-- The four figures that characterize a usage. -/
def signature (u : Usage) : List (String × K) :=
  [("drawing_density", u.familyShare .drawing), ("transform_density", u.familyShare .transform),
    ("complexity", u.complexity), ("redundancy", u.redundancy)]

variable [LT K] [DecidableLT K] [Sub K]

/-- How near two numbers in percent are: one hundred if they are equal. -/
def nearness (x y : K) : K := 100.0 - gap x y

variable [Add K]

/-- How alike two usages are, from zero to one hundred. -/
def likeness (a b : Usage) : K :=
  let near (f : Family) : K := nearness (a.familyShare f) (b.familyShare f)
  let families := near .drawing * 0.3 + near .transform * 0.2 + near .stack * 0.2 +
    near .control * 0.15 + near .utility * 0.15
  let content : K := nearness a.gcContent b.gcContent
  let complexities : K := 100.0 - gap a.complexity b.complexity * 100.0
  let signatures := near .drawing * 0.4 + near .transform * 0.3 + complexities * 0.3
  families * 0.5 + content * 0.2 + signatures * 0.3

end

end Usage

end Triplet
