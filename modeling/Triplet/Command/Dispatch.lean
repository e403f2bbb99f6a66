import Triplet.Command.Compare
import Triplet.Command.Mutate
import Triplet.Command.Run
import Triplet.Command.Stats
import Triplet.Command.Validation
import Triplet.Text.Case

/-! # From arguments to commands

The name of a command may follow the level of the messages that are wanted; the rest of the
arguments belong to the command.
-/

namespace Triplet.Command

/-- The options before the name of a command. -/
def outerGrammar : Grammar := ⟨[], [], ["--log-level"]⟩

/-- The levels of messages. -/
def levels : List String :=
  ["CRITICAL", "FATAL", "ERROR", "WARN", "WARNING", "INFO", "DEBUG", "NOTSET"]

def defaultLevel : String := "WARNING"

variable {m : Type → Type} [Monad m]

/-- Give up on a usage error. -/
def accept {α : Type} : Except UsageError α → Command m α
  | .ok a => return a
  | .error e => throw (.usage e)

/-- Read the arguments up to the name of a command: the level, the name and the rest. -/
def readOuter (args : List String) : Except UsageError (String × Name × List String) := do
  let outer ← outerGrammar.read true args
  let level := (outer.value? "--log-level").getD defaultLevel
  match outer.positional with
  | [] => throw .commandMissing
  | first :: rest =>
    match Name.ofText? first with
    | none => throw (.unknownCommand first)
    | some name => return (level, name, rest)

variable [Files m]

/-- Do what is asked for. `atHand` is the seed for what is to be random. -/
def serve (atHand : Nat) : Request → Command m Unit
  | .validate file json verbose => validate file json verbose
  | .lint paths json => lint paths json
  | .run r => run r
  | .mutate r => mutate atHand r
  | .compare before after => compare before after
  | .similarity a b threshold => similarity a b threshold
  | .stats file => stats file

/-- Run the command that some arguments name. -/
def dispatch (atHand : Nat) (args : List String) : Command m Unit := do
  let (level, name, rest) ← accept (readOuter args)
  let level := String.ofList (Text.upperAll level.toList)
  if !levels.contains level then crash (.level level)
  serve atHand (← accept (Request.read name rest))

end Triplet.Command
