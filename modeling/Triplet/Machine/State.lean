import Triplet.Drawing.Surface
import Triplet.Program

/-! # Machine state

A machine has a stack of values, a pen, and a stack of saved pens. It draws on a surface, counts
the instructions it executes up to a budget, and keeps a snapshot of itself after each.
-/

namespace Triplet

structure Color where
  h : Value
  s : Value
  l : Value
  deriving DecidableEq

def Color.black : Color := ⟨.real 0, .real 0, .real 0⟩

structure Pen where
  placement : Placement
  color : Color
  deriving DecidableEq

def Pen.initial : Pen := ⟨⟨.real 0, .real 0, .real 0, .real 1⟩, .black⟩

structure Snapshot where
  pen : Pen
  /-- The top of the stack comes first. -/
  stack : List Value
  /-- The pen saved last comes first. -/
  saved : List Pen
  pointer : Nat
  count : Nat
  last? : Option Opcode
  seed : Value
  deriving DecidableEq

def Snapshot.initial (seed : Value) : Snapshot where
  pen := .initial
  stack := []
  saved := []
  pointer := 0
  count := 0
  last? := none
  seed := seed

structure Machine (σ : Type) where
  surface : σ
  budget : Nat
  now : Snapshot
  truncated : Bool
  trace : Array Snapshot

/-- A budget that is no positive integer. -/
structure BudgetError where
  given : Value

def BudgetError.message (e : BudgetError) : String :=
  "max_instructions must be a positive integer, got: " ++ e.given.display

def readBudget : Value → Except BudgetError Nat
  | .int n => if 1 ≤ n then .ok n.toNat else .error ⟨.int n⟩
  | v => .error ⟨v⟩

/-- The budget of a machine that is given none. -/
def defaultBudget : Nat := 10000

/-- Why a machine stops before the end of its program. -/
inductive Stop where
  /-- It met a stop codon or the end of its budget. -/
  | halt
  | fault (f : Fault)
  deriving DecidableEq, Repr

abbrev Exec (σ : Type) := EStateM Stop (Machine σ)

namespace Machine

variable {σ : Type}

def initial (surface : σ) (budget : Nat) (seed : Value) : Machine σ where
  surface := surface
  budget := budget
  now := .initial seed
  truncated := false
  trace := #[]

/-- The machine with another surface. -/
def onto {τ : Type} (m : Machine σ) (surface : τ) : Machine τ :=
  ⟨surface, m.budget, m.now, m.truncated, m.trace⟩

/-- Forget everything but the surface, the budget and the seed. -/
def reset (m : Machine σ) : Machine σ := initial m.surface m.budget m.now.seed

def modifyNow (f : Snapshot → Snapshot) : Exec σ Unit := modify fun m => { m with now := f m.now }

/-- Stop at a fault. -/
def attempt {α : Type} (result : Except Fault α) : Exec σ α := fun m =>
  match result with
  | .ok a => .ok a m
  | .error f => .error (.fault f) m

/-- Take the top of the stack; an empty stack gives zeros. -/
def pop : Exec σ Value := fun m =>
  match m.now.stack with
  | [] => .ok (.int 0) m
  | v :: rest => .ok v.sanitize { m with now := { m.now with stack := rest } }

def push (v : Value) : Exec σ Unit :=
  modifyNow fun s => { s with stack := v.sanitize :: s.stack }

/-- Keep a snapshot of the present state. -/
def record : Exec σ Unit := modify fun m => { m with trace := m.trace.push m.now }

/-- Perform a call on the surface. -/
def draw [Surface σ] (call : Call) : Exec σ Unit := fun m =>
  match Surface.perform call m.surface with
  | .ok _ s => .ok () { m with surface := s }
  | .error f s => .error (.fault f) { m with surface := s }

end Machine

end Triplet
