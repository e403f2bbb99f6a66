import Triplet.Mutation.Bases

/-! # Positions of any kind

A position may be asked for as a value. An integer names a place, and so does a truth value, as 0
or 1. A double or a text names none: it goes through the same checks as a number would and is
refused at the first that it fails, at the latest where the place is needed.
-/

namespace Triplet

/-- Why there is no mutation at a position. -/
inductive PositionError where
  | refused (r : Refusal)
  | fault (f : Fault)
  deriving DecidableEq

/-- A mutation, with its position in the form in which it was asked for. -/
structure PlacedMutation where
  mutation : Mutation
  position : Value
  deriving DecidableEq

def PlacedMutation.describe (m : PlacedMutation) : String := m.mutation.change.describe m.position

namespace Mutation

open Triplet.Random

/-- Whether a number lies from zero to a bound. -/
def isUpTo (bound : Nat) (n : Number) : Bool := (n.equal (.int 0) || (Number.int 0).less n) &&
  (n.equal (.int bound) || n.less (.int bound))

/-- Whether a number lies from zero to below a bound. -/
def isBelow (bound : Nat) (n : Number) : Bool := isUpTo bound n && n.less (.int bound)

/-- A position that names no codon. -/
def misplacedCodon (genome : List Char) (position : Value) (n : Number) : PositionError :=
  let codons := Genome.split genome
  if !isBelow codons.length n then .refused (.noCodonAt position codons.length)
  else if (operandPlaces codons).any fun i => n.equal (.int i) then .refused (.operandAt position)
  else .fault .wrongKind

/-- A position that names no base. -/
def misplacedBase (genome : List Char) (position : Value) (n : Number) : PositionError :=
  let strand := Genome.clean genome
  if strand.isEmpty then .refused .emptyGenome
  else if !isBelow strand.length n then .refused (.noBaseAt position)
  else .fault .wrongKind

/-- A position at which nothing is put in. The bases are drawn before the place is needed. -/
def misplacedInsertion (genome : List Char) (position : Value) (n : Number) (length : Int) :
    Draw PositionError := do
  if length < 1 then return .refused (.insertionLength length)
  if !isUpTo (Genome.clean genome).length n then return .refused (.noBaseAt position)
  let _ ← many length.toNat randomBase
  return .fault .wrongKind

/-- A position at which nothing is taken out. -/
def misplacedDeletion (genome : List Char) (position : Value) (n : Number) (length : Int) :
    PositionError :=
  let bases := (Genome.clean genome).length
  if length < 1 then .refused (.deletionLength length)
  else if n.less (.int 0) then .refused (.beyondGenome position length)
  else
    match n.add (.int length) with
    | .error f => .fault f
    | .ok last =>
      if (Number.int bases).less last then .refused (.beyondGenome position length)
      else .fault .wrongKind

/-- A position at which no frame is shifted. -/
def misplacedFrameshift (genome : List Char) (position : Value) (n : Number) :
    Draw PositionError := do
  let length : Nat := 1 + (← below 2)
  let heads ← coin
  let available := (Genome.clean genome).length
  let overruns :=
    available < length || (n.add (.int length)).toOption.any (Number.int available).less
  if heads || overruns then misplacedInsertion genome position n length
  else return misplacedDeletion genome position n length

/-- A text is compared with no bound; what is checked before it and drawn before it stays. -/
def misplacedText (kind : MutationKind) (genome : List Char) (length : Int) :
    Draw PositionError := do
  match kind with
  | .point => if (Genome.clean genome).isEmpty then return .refused .emptyGenome
  | .insertion => if length < 1 then return .refused (.insertionLength length)
  | .deletion => if length < 1 then return .refused (.deletionLength length)
  | .frameshift =>
    let _ ← below 2
    let _ ← coin
  | _ => pure ()
  return .fault .wrongKind

/-- Why a position that is no integer is refused. -/
def misplaced (kind : MutationKind) (genome : List Char) (position : Value) (length : Int) :
    Draw PositionError :=
  match position.toNumber with
  | .error _ => misplacedText kind genome length
  | .ok n =>
    match kind with
    | .silent | .missense | .nonsense => return misplacedCodon genome position n
    | .point => return misplacedBase genome position n
    | .insertion => misplacedInsertion genome position n length
    | .deletion => return misplacedDeletion genome position n length
    | .frameshift => misplacedFrameshift genome position n

/-- Mutate by a kind at a position of any kind; where it is missing, one is drawn. -/
def atPosition (kind : MutationKind) (genome : List Char) (position : Value) (length : Int) :
    ExceptT PositionError Draw PlacedMutation :=
  let at? (place? : Option Int) : ExceptT Refusal Draw Mutation := ofKind kind genome place? length
  match position with
  | .missing => do
    let m ← (at? none).adapt .refused
    return ⟨m, .int m.place⟩
  | .int p => do
    let m ← (at? (some p)).adapt .refused
    return ⟨m, .int m.place⟩
  | .truth b => do
    let m ← (at? (some b.toNat)).adapt fun r => .refused (r.withPosition position)
    return ⟨m, position⟩
  | .real _ | .text _ => .mk do return .error (← misplaced kind genome position length)

end Mutation

end Triplet
