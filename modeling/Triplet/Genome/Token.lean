import Triplet.Codon
import Triplet.Genome.Strand
import Triplet.Value

/-! # Tokens

Three letters in a row are a token: an instruction, the operand of the `PUSH` before it, or a codon
that is not known. One or two letters at the end are outside the reading frame.
-/

namespace Triplet

inductive Meaning where
  | instruction (op : Opcode)
  | operand (v : Value)
  | unknown
  deriving DecidableEq

structure Token where
  codon : List Char
  meaning : Meaning
  /-- The number of letters before the token. -/
  position : Int
  line : Int
  deriving DecidableEq

namespace Token

def opcode? (t : Token) : Option Opcode :=
  match t.meaning with
  | .instruction op => some op
  | _ => none

def operand? (t : Token) : Option Value :=
  match t.meaning with
  | .operand v => some v
  | _ => none

def isOperand (t : Token) : Bool := t.operand?.isSome

def isUnknown (t : Token) : Bool := t.meaning = .unknown

end Token

namespace Genome

/-- What a codon means, after a `PUSH` or elsewhere. -/
def meaning (afterPush : Bool) (codon : List Char) : Meaning :=
  match Codon.read? codon with
  | none => .unknown
  | some c => if afterPush then .operand (.int c.value) else .instruction c.opcode

/-- Read letters in threes from the given position on. -/
def tokensFrom (afterPush : Bool) (position : Nat) : List Letter → List Token
  | a :: b :: c :: rest =>
    let codon := a.text ++ b.text ++ c.text
    let token : Token := ⟨codon, meaning afterPush codon, position, a.line⟩
    token :: tokensFrom (token.opcode? = some .push) (position + 3) rest
  | _ => []

/-- The tokens of a genome text. -/
def tokens (text : List Char) : List Token := tokensFrom false 0 (letters text)

end Genome

end Triplet
