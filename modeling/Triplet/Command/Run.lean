import Triplet.Command.Basic
import Triplet.Command.Request

/-! # Running a genome file

Settings may come from a file; some can be chosen for one run. Where the results go is printed.
-/

namespace Triplet.Command

variable {m : Type → Type} [Monad m] [Files m]

/-- The settings for a run. -/
def runSettings (r : RunRequest) : Command m Settings := do
  let settings ← readSettings r.settings?
  let budget ←
    match r.budget? with
    | none => pure settings.machine.budget
    | some n => if n < 1 then fail "--max-instructions must be positive" else pure n.toNat
  let directory := r.directory?.getD settings.output.directory
  return { settings with
    machine := { settings.machine with budget := budget }
    output := { settings.output with directory := directory, canvas := r.canvas } }

def run (r : RunRequest) : Command m Unit := do
  let settings ← runSettings r
  if !(← perform (Files.isFile (m := m) r.file)) then
    fail ("cannot read " ++ r.file.toText ++ ": no such file")
  match ← (liftM (Job.run (m := m) settings r.file).run : Command m _) with
  | .error e => crash (.job e)
  | .ok (directory, e) =>
    say s!"Executed {e.states.length} instruction(s); outputs in {directory.toText}"
    if e.truncated then
      let budget := settings.machine.budget
      say s!"[yellow]⚠ Instruction limit {budget} reached; output is partial[/yellow]"
    if !e.isOk then exit 1

end Triplet.Command
