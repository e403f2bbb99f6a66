import Triplet.Drawing.Canvas
import Triplet.Machine.State
import Triplet.Path

/-! # Settings

What can be chosen for a run: the machine, the canvas, mutations and what is written.
-/

namespace Triplet

namespace Settings

structure Machine where
  budget : Nat
  seed : Int
  deriving DecidableEq, Repr

structure Canvas where
  width : Nat
  height : Nat
  dpi : Nat
  background : String
  range : Nat
  deriving DecidableEq, Repr

structure Mutation where
  seed? : Option Int
  /-- How many bases an insertion or a deletion has. -/
  length : Nat
  deriving DecidableEq, Repr

structure Output where
  directory : Path
  canvas : Bool
  trace : Bool
  deriving DecidableEq, Repr

end Settings

structure Settings where
  machine : Settings.Machine
  canvas : Settings.Canvas
  mutation : Settings.Mutation
  output : Settings.Output
  deriving DecidableEq, Repr

namespace Settings

def default : Settings where
  machine := ⟨defaultBudget, 0⟩
  canvas := ⟨400, 400, 100, "white", 64⟩
  mutation := ⟨none, 1⟩
  output := ⟨Path.ofText "runs", true, true⟩

def Canvas.sheet (c : Canvas) : Sheet :=
  ⟨.int c.width, .int c.height, .int c.dpi, c.background, .int c.range⟩

end Settings

end Triplet
