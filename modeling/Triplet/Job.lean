import Triplet.Drawing.Print
import Triplet.Drawing.Recorder
import Triplet.Files
import Triplet.Report.Summary
import Triplet.Report.Trace

/-! # Jobs

A job runs the genome of a file and writes what came of it into a directory that has the name of
the file: the picture, the trace and a summary.
-/

namespace Triplet

inductive JobError where
  | read (e : ReadError)
  | write (e : FileError)
  | sheet (e : SheetError)
  | fault (f : Fault)
  | print (e : PrintError)

/-- The text of the errors that have one. -/
def JobError.message? : JobError → Option String
  | read e => some e.message
  | write e => some e.message
  | sheet e => e.message?
  | fault f => f.message?
  | print e => e.message?

namespace Job

/-- Run a genome on a canvas or, if none is wanted, on a recorder. -/
def execute (settings : Settings) (text : List Char) :
    Except JobError (Option Canvas × Execution Unit) := do
  if settings.output.canvas then
    let canvas ← (Canvas.ofSheet settings.canvas.sheet).mapError .sheet
    match Execution.ofText settings canvas text with
    | (e, none) => return (some e.machine.surface, e.forget)
    | (_, some f) => throw (.fault f)
  else
    match Execution.ofText settings Recorder.blank text with
    | (e, none) => return (none, e.forget)
    | (_, some f) => throw (.fault f)

/-- A canvas as the content of a file, if it can be printed. -/
def picture (canvas : Canvas) : Except JobError Content := do
  canvas.checkPrint.mapError .print
  return .picture canvas

def summary (source : Path) (e : Execution Unit) : String :=
  (Json.object (("genome", .string source.toText) :: e.members)).pretty 0

/-- The directory for the results of a genome file. -/
def directory (settings : Settings) (source : Path) : Path :=
  settings.output.directory.join (.ofText source.stem)

variable {m : Type → Type} [Monad m] [Files m]

/-- Write a file into a directory. -/
def writeInto (directory : Path) (name : String) (content : Content) : ExceptT JobError m Unit :=
  ExceptT.adapt .write (.mk (Files.write (directory.join (.ofText name)) content))

def makeDirectory (path : Path) : ExceptT JobError m Unit :=
  ExceptT.adapt .write (.mk (Files.makeDirectory path))

/-- Run the genome of a text and write the results into a directory. -/
def complete (settings : Settings) (source there : Path) (text : List Char) :
    ExceptT JobError m (Execution Unit) := do
  let (canvas?, e) ← liftExcept (execute settings text)
  if let some canvas := canvas? then
    writeInto there "canvas.png" (← liftExcept (picture canvas))
  if settings.output.trace then
    writeInto there "trace.csv" (.bytes (Text.encode (Trace.table e.states).toList))
  writeInto there "summary.json" (.bytes (Text.encode (summary source e).toList))
  return e
where
  liftExcept {α : Type} (result : Except JobError α) : ExceptT JobError m α := .mk (pure result)

/-- Run the genome of a file and write the results; gives their directory. -/
def run (settings : Settings) (source : Path) : ExceptT JobError m (Path × Execution Unit) := do
  let there := directory settings source
  makeDirectory there
  let text ← ExceptT.adapt JobError.read (.mk (Files.readText source))
  return (there, ← complete settings source there text)

end Job

end Triplet
