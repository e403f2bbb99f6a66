import Triplet.Machine.Step

/-! # Runs

A block of instructions runs from its first to its last. A loop takes the instructions after it as
its window and repeats them; a stop codon or the end of the budget halts the whole run.
-/

namespace Triplet.Machine

variable {σ : Type} [Surface σ]

/-- Count an instruction, or halt at the end of the budget. -/
def tick (pointer : Nat) (op : Opcode) : Exec σ Unit := fun m =>
  if m.budget ≤ m.now.count then .error .halt { m with truncated := true }
  else .ok () { m with now := { m.now with count := m.now.count + 1, pointer, last? := some op } }

/-- Perform an action a number of times. -/
def times (action : Exec σ Unit) : Nat → Exec σ Unit
  | 0 => pure ()
  | n + 1 => do
    action
    times action n

/-- Pop the number of repetitions and the length of the window of a loop, which is cut to the
instructions that are left. -/
def loopHead (left : Nat) : Exec σ (Nat × Nat) := do
  let count ← attempt (← pop).truncate
  let length ← attempt (← pop).truncate
  return (count.toNat, min length.toNat left)

/-- Run a block. Unknown codons are passed over, and so is a window that holds nothing else. -/
def exec : List Instruction → Exec σ Unit
  | [] => pure ()
  | i :: rest =>
    match i.opcode? with
    | none => exec rest
    | some op => do
      tick i.pointer op
      match op with
      | .stop =>
        record
        throw .halt
      | .loop =>
        let (count, length) ← loopHead rest.length
        record
        if (rest.take length).any (·.opcode?.isSome) then times (exec (rest.take length)) count
        exec (rest.drop length)
      | _ =>
        step op i.operand
        record
        exec rest
termination_by block => block.length
decreasing_by all_goals simp; try omega

/-- The pen at the start of a run on a surface. -/
def startPen (p : Placement) : Pen := ⟨p, .black⟩

/-- The machine before the first instruction of a run. -/
def prepare (m : Machine σ) : Machine σ :=
  let surface := Surface.clear m.surface
  let fresh := m.reset
  { fresh with surface, now := { fresh.now with pen := startPen (Surface.placement surface) } }

/-- Run a token stream, and keep the fault that ended the run, if any. -/
def run (tokens : List Token) (m : Machine σ) : Machine σ × Option Fault :=
  match exec (Program.entry (Program.assemble tokens)) m.prepare with
  | .ok _ m => (m, none)
  | .error .halt m => (m, none)
  | .error (.fault f) m => (m, some f)

end Triplet.Machine
