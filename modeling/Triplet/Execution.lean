import Triplet.Genome.Problem
import Triplet.Machine.Run
import Triplet.Settings.Basic

/-! # Executions

A genome is run whatever its problems are; they are reported beside the result of the run.
-/

namespace Triplet

structure Execution (σ : Type) where
  tokens : List Token
  problems : List Problem
  machine : Machine σ

namespace Execution

variable {σ : Type}

def errors (e : Execution σ) : List Problem := e.problems.filter Problem.isError

def warnings (e : Execution σ) : List Problem := e.problems.filter (!·.isError)

def isOk (e : Execution σ) : Bool := e.errors.isEmpty

def states (e : Execution σ) : List Snapshot := e.machine.trace.toList

def truncated (e : Execution σ) : Bool := e.machine.truncated

/-- The state after the last instruction. -/
def final? (e : Execution σ) : Option Snapshot := e.machine.trace.back?

/-- Run the genome of a text on a surface. -/
def ofText [Surface σ] (settings : Settings) (surface : σ) (text : List Char) :
    Execution σ × Option Fault :=
  let tokens := Genome.tokens text
  let start := Machine.initial surface settings.machine.budget (.int settings.machine.seed)
  let (machine, fault?) := start.run tokens
  (⟨tokens, Genome.problems text, machine⟩, fault?)

/-- The execution without what it has drawn. -/
def forget (e : Execution σ) : Execution Unit := ⟨e.tokens, e.problems, e.machine.onto ()⟩

end Execution

end Triplet
