import Triplet.Command.Dispatch
import Triplet.Picture.Png

/-! # Command line

Commands on the files of the machine at hand. What they print goes to the standard output, and why
they broke off to the standard error.
-/

namespace Triplet

/-- The cause of an error on files, if it is one that commands know. -/
def fileCause? : IO.Error → Option FileCause
  | .noFileOrDirectory .. => some .missing
  | .permissionDenied .. => some .denied
  | .alreadyExists .. => some .alreadyThere
  | .inappropriateType _ code _ => some (if code = 21 then .isADirectory else .notADirectory)
  | .invalidArgument _ code _ => if code = 36 then some .nameTooLong else none
  | _ => none

/-- Do something with the file of a path. -/
def onFile {α : Type} (path : Path) (action : IO α) : IO (Except FileError α) := do
  try
    return .ok (← action)
  catch e =>
    match fileCause? e with
    | some cause => return .error ⟨cause, path⟩
    | none => throw e

def Content.encode : Content → ByteArray
  | bytes data => ⟨data.toArray⟩
  | picture canvas => Picture.png (Picture.ofCanvas canvas)

/-- A test on the file of a path, which fails where there is none. -/
def test (path : Path) (action : IO Bool) : IO (Except FileError Bool) := do
  match ← onFile path action with
  | .error e => return if e.cause = .nameTooLong then .error e else .ok false
  | result => return result

instance : Files IO where
  read p := onFile p do return (← IO.FS.readBinFile p.toText).toList
  write p content := onFile p (IO.FS.writeBinFile p.toText content.encode)
  makeDirectory p := onFile p (IO.FS.createDirAll p.toText)
  isFile p := test p do
    let there ← IO.FS.realPath p.toText
    return (← there.pathExists) && !(← there.isDir)
  isDirectory p := test p do (← IO.FS.realPath p.toText).isDir
  names p := do
    let entries ← (← IO.FS.realPath p.toText).readDir
    return (entries.map fun entry => entry.fileName).toList

/-- A seed that nobody chose. -/
def freshSeed : IO Nat := do
  return (← IO.getRandomBytes 16).foldl (fun n b => 256 * n + b.toNat) 0

/-- The text for the standard error. -/
def Ending.report? : Ending → Option String
  | exit _ => none
  | usage e => some ("Error: " ++ e.message)
  | crash c => some ("Error: " ++ c.message)

end Triplet

def main (args : List String) : IO UInt32 := do
  let seed ← Triplet.freshSeed
  let outcome ← Triplet.Command.outcome (m := IO) (Triplet.Command.dispatch seed args)
  IO.print outcome.printed
  if let some text := outcome.ending?.bind Triplet.Ending.report? then
    IO.eprintln text
  return outcome.code.toUInt32
