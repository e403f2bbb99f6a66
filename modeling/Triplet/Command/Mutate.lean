import Triplet.Command.Basic
import Triplet.Command.Request
import Triplet.Mutation.Bases

/-! # Mutating a genome file

The mutated genome is printed, or written to a file.
-/

namespace Triplet.Command

variable {m : Type → Type} [Monad m] [Files m]

/-- The seed of a request, else that of the settings, else the one at hand. -/
def mutationSeed (atHand : Nat) (r : MutateRequest) (settings : Settings) : Command m Nat :=
  let given : Value :=
    match r.seed? <|> settings.mutation.seed? with
    | some n => .int n
    | none => .missing
  match Random.readSeed atHand given with
  | .ok seed => return seed
  | .error e => crash (.seed e)

def mutate (atHand : Nat) (r : MutateRequest) : Command m Unit := do
  let settings ← readSettings r.settings?
  let text ← readGenome r.file
  let seed ← mutationSeed atHand r settings
  match MutationKind.ofName? r.kind with
  | none => fail (MutationKind.unknownMessage r.kind)
  | some kind =>
    let action := Mutation.ofKind kind text r.place? settings.mutation.length
    match (action.run.run (.ofSeed seed)).1 with
    | .error refusal => fail refusal.message
    | .ok mutation =>
      say mutation.describe
      match r.output? with
      | none => say (String.ofList mutation.mutated)
      | some path =>
        perform (Files.writeText (m := m) path (mutation.mutated ++ ['\n']))
        say ("Wrote " ++ path.toText)

end Triplet.Command
