import Triplet.Genome.Token

/-! # Programs

A program is a list of instructions, one for each token that is not the operand of a `PUSH`. An
instruction without an operand carries zero.
-/

namespace Triplet

structure Instruction where
  /-- The index of the token. -/
  pointer : Nat
  opcode? : Option Opcode
  codon : List Char
  operand : Value := .int 0
  deriving DecidableEq

namespace Program

/-- Fold operands into the `PUSH` before them, counting tokens from `index`. -/
def assembleFrom (index : Nat) : List Token → List Instruction
  | [] => []
  | t :: [] => [⟨index, t.opcode?, t.codon, .int 0⟩]
  | t :: next :: rest =>
    match t.opcode?, next.operand? with
    | some .push, some v => ⟨index, some .push, t.codon, v⟩ :: assembleFrom (index + 2) rest
    | _, _ => ⟨index, t.opcode?, t.codon, .int 0⟩ :: assembleFrom (index + 1) (next :: rest)

def assemble (tokens : List Token) : List Instruction := assembleFrom 0 tokens

/-- The program from its first start codon on, or all of it if it has none. -/
def entry (program : List Instruction) : List Instruction :=
  match program.dropWhile (·.opcode? ≠ some .start) with
  | [] => program
  | rest => rest

end Program

end Triplet
