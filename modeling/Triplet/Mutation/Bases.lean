import Triplet.Mutation.Codons

/-! # Mutations of bases

A point mutation replaces one base of a strand; insertions and deletions put bases in or take them
out; a frameshift does either with one or two bases, so that every later codon is read otherwise.
-/

namespace Triplet.Mutation

open Triplet.Random

/-- The given position, or one drawn below a bound. -/
def positionOr (place? : Option Int) (bound : Nat) : Draw Int :=
  match place? with
  | none => return (← below bound : Nat)
  | some p => return p

/-- Replace a base by another. -/
def point (genome : List Char) (place? : Option Int) : Mutating Mutation := do
  let strand := Genome.clean genome
  if strand.isEmpty then throw .emptyGenome
  let position ← positionOr place? strand.length
  if position < 0 then throw (.noBaseAt (.int position))
  match strand[position.toNat]? with
  | none => throw (.noBaseAt (.int position))
  | some old =>
    let new ← choose .emptyGenome (Base.all.filter (·.toChar ≠ old))
    return ⟨Genome.format (strand.set position.toNat new.toChar), position.toNat, .point old new⟩

/-- Draw one of the four bases. -/
def randomBase : Draw Base := choice .a [.c, .g, .t]

/-- Put random bases into a strand. -/
def insertion (genome : List Char) (place? : Option Int) (length : Int) : Mutating Mutation := do
  if length < 1 then throw (.insertionLength length)
  let strand := Genome.clean genome
  let position ← positionOr place? (strand.length + 1)
  if position < 0 ∨ strand.length < position then throw (.noBaseAt (.int position))
  let place := position.toNat
  let added ← many length.toNat randomBase
  let mutated := strand.take place ++ added.map Base.toChar ++ strand.drop place
  return ⟨Genome.format mutated, place, .edit (.insertion added)⟩

/-- Take letters out of a strand. -/
def deletion (genome : List Char) (place? : Option Int) (length : Int) : Mutating Mutation := do
  if length < 1 then throw (.deletionLength length)
  let strand := Genome.clean genome
  if place?.isNone ∧ strand.length < length then throw (.longerThanGenome length strand.length)
  let position ← positionOr place? (strand.length - length.toNat + 1)
  if position < 0 ∨ strand.length < position + length then
    throw (.beyondGenome (.int position) length)
  let place := position.toNat
  let removed := (strand.drop place).take length.toNat
  let mutated := strand.take place ++ strand.drop (place + length.toNat)
  return ⟨Genome.format mutated, place, .edit (.deletion removed)⟩

/-- Name an edit a frameshift. -/
def asFrameshift (m : Mutation) : Mutation :=
  match m.change with
  | .edit e => { m with change := .frameshift e }
  | _ => m

/-- Put in or take out one base or two. What cannot be taken out is put in. -/
def frameshift (genome : List Char) (place? : Option Int) : Mutating Mutation := do
  let length : Nat := 1 + (← below 2)
  let heads ← coin
  let available := (Genome.clean genome).length
  let overruns := available < length || place?.any fun p => (available : Int) < p + length
  let m ←
    if heads || overruns then insertion genome place? length
    else deletion genome place? length
  return asFrameshift m

/-- Mutate by a kind, at a given or drawn place; only insertions and deletions heed the length. -/
def ofKind (kind : MutationKind) (genome : List Char) (place? : Option Int) (length : Int) :
    Mutating Mutation :=
  match kind with
  | .silent => silent genome place?
  | .missense => missense genome place?
  | .nonsense => nonsense genome place?
  | .point => point genome place?
  | .insertion => insertion genome place? length
  | .deletion => deletion genome place? length
  | .frameshift => frameshift genome place?

/-- Mutate by the name of a kind, at a drawn place and with the least length. -/
def ofName (name : String) (genome : List Char) : Mutating Mutation :=
  match MutationKind.ofName? name with
  | some kind => ofKind kind genome none 1
  | none => throw (.unknownKind name)

end Triplet.Mutation
