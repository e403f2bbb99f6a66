import Triplet.Mutation.Refusal
import Triplet.Random.Generator

/-! # Mutations of a codon

A silent, missense or nonsense mutation replaces one instruction codon of a genome, at a given
place or at one drawn among those that admit it. Operands are never replaced.
-/

namespace Triplet

open Triplet.Random

/-- A computation that draws random numbers and may be refused; what it drew stays drawn. -/
abbrev Mutating := ExceptT Refusal Draw

namespace Mutation

/-- The codons that another may be replaced by. -/
def options (f : Codon → List Codon) (codon : List Char) : List Codon :=
  ((Codon.read? codon).map f).getD []

/-- The places of instruction codons that satisfy a condition. -/
def candidates (codons : List (List Char)) (admits : Nat → List Char → Bool) : List Nat :=
  let operands := operandPlaces codons
  (codons.zipIdx.filter fun (codon, i) => !operands.contains i && admits i codon).map (·.2)

/-- Draw one of some items, or refuse if there is none. -/
def choose {α : Type} (refusal : Refusal) : List α → Mutating α
  | [] => throw refusal
  | a :: rest => liftM (choice a rest)

/-- The given place, if it holds an instruction codon, or else one drawn among the candidates. -/
def codonPlace (codons : List (List Char)) (place? : Option Int) (admits : Nat → List Char → Bool)
    (none? : Refusal) : Mutating Nat :=
  match place? with
  | none => choose none? (candidates codons admits)
  | some p =>
    if p < 0 ∨ codons.length ≤ p then throw (.noCodonAt (.int p) codons.length)
    else if (operandPlaces codons).contains p.toNat then throw (.operandAt (.int p))
    else return p.toNat

/-- Write a codon at a place of a genome. -/
def replaceCodon (codons : List (List Char)) (place : Nat) (new : Codon) (change : Change) :
    Mutation :=
  ⟨Genome.joinCodons (codons.set place new.toText), place, change⟩

/-- Replace a codon by another with the same opcode. -/
def silent (genome : List Char) (place? : Option Int) : Mutating Mutation := do
  let codons := Genome.split genome
  let admits _ codon := !(options Codon.synonyms codon).isEmpty
  let place ← codonPlace codons place? admits .noSynonyms
  let old := codons.getD place []
  let new ← choose (.synonymless old (.int place)) (options Codon.synonyms old)
  return replaceCodon codons place new (.silent old new)

/-- Replace a codon by one with another opcode that does not stop the program. -/
def missense (genome : List Char) (place? : Option Int) : Mutating Mutation := do
  let codons := Genome.split genome
  let admits _ codon := !(options Codon.missense codon).isEmpty
  let place ← codonPlace codons place? admits .noMissense
  let old := codons.getD place []
  let new ← choose (.unreadable old (.int place)) (options Codon.missense old)
  return replaceCodon codons place new (.missense old new)

/-- Whether a nonsense mutation that draws its place may draw this one. -/
def admitsNonsense (place : Nat) (codon : List Char) : Bool :=
  0 < place && codon.length = 3 && codon != Codon.start.toText &&
    (Codon.ofText? codon).map Codon.opcode != some .stop

/-- Replace a codon by a stop codon. -/
def nonsense (genome : List Char) (place? : Option Int) : Mutating Mutation := do
  let codons := Genome.split genome
  let place ← codonPlace codons place? admitsNonsense .noNonsense
  return replaceCodon codons place Codon.stop (.nonsense (codons.getD place []))

end Mutation

end Triplet
