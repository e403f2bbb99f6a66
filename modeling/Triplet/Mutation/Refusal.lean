import Triplet.Mutation.Change

/-! # Refused mutations

The causes for which a genome cannot be mutated as asked.
-/

namespace Triplet

inductive Refusal where
  /-- No codon of the genome admits a mutation of the kind. -/
  | noSynonyms
  | noMissense
  | noNonsense
  | noCodonAt (position : Value) (count : Nat)
  | operandAt (position : Value)
  | synonymless (codon : List Char) (position : Value)
  | unreadable (codon : List Char) (position : Value)
  | emptyGenome
  | noBaseAt (position : Value)
  | insertionLength (length : Int)
  | deletionLength (length : Int)
  | longerThanGenome (length : Int) (bases : Nat)
  | beyondGenome (position : Value) (length : Int)
  | unknownKind (name : String)
  deriving DecidableEq

namespace Refusal

def message : Refusal → String
  | noSynonyms => "No synonymous mutations available in this genome"
  | noMissense => "No missense mutations available in this genome"
  | noNonsense => "No nonsense mutation positions available"
  | noCodonAt position count =>
    "Position " ++ position.display ++ s!" out of range (genome has {count} codons)"
  | operandAt position =>
    "Position " ++ position.display ++ " is a PUSH operand, not an instruction"
  | synonymless codon position =>
    "No synonymous codons for " ++ String.ofList codon ++ " at position " ++ position.display
  | unreadable codon position =>
    "No missense codons for " ++ String.ofList codon ++ " at position " ++ position.display
  | emptyGenome => "Cannot apply a point mutation to an empty genome"
  | noBaseAt position => "Position " ++ position.display ++ " out of range"
  | insertionLength length => s!"Insertion length must be positive, got {length}"
  | deletionLength length => s!"Deletion length must be positive, got {length}"
  | longerThanGenome length bases =>
    "Deletion of " ++ Edit.bases length ++ s!" exceeds genome length {bases}"
  | beyondGenome position length =>
    "Deletion at position " ++ position.display ++
      s!" with length {length} exceeds genome length"
  | unknownKind name => "Unknown mutation type: " ++ name

/-- The refusal with its position in another form. -/
def withPosition (position : Value) : Refusal → Refusal
  | noCodonAt _ count => noCodonAt position count
  | operandAt _ => operandAt position
  | synonymless codon _ => synonymless codon position
  | unreadable codon _ => unreadable codon position
  | noBaseAt _ => noBaseAt position
  | beyondGenome _ length => beyondGenome position length
  | r => r

end Refusal

end Triplet
