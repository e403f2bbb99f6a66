import Triplet.Drawing.Canvas
import Triplet.Path
import Triplet.Text.Blank
import Triplet.Text.Utf8

/-! # Files

The operations on files that commands need, for any monad that has files: the ones of a disk in
memory, or those of the machine at hand.
-/

namespace Triplet

/-- What is written to a file. A picture is encoded where it is stored. -/
inductive Content where
  | bytes (data : List UInt8)
  | picture (canvas : Canvas)

inductive FileCause where
  | missing
  | denied
  | alreadyThere
  | notADirectory
  | isADirectory
  | nameTooLong
  /-- A path with a null character. -/
  | nullCharacter
  deriving DecidableEq, Repr

structure FileError where
  cause : FileCause
  path : Path
  deriving DecidableEq, Repr

def FileCause.message : FileCause → String
  | missing => "[Errno 2] No such file or directory"
  | denied => "[Errno 13] Permission denied"
  | alreadyThere => "[Errno 17] File exists"
  | notADirectory => "[Errno 20] Not a directory"
  | isADirectory => "[Errno 21] Is a directory"
  | nameTooLong => "[Errno 36] File name too long"
  | nullCharacter => "embedded null byte"

def FileError.message (e : FileError) : String :=
  if e.cause = .nullCharacter then e.cause.message
  else e.cause.message ++ ": " ++ Text.quote e.path.toText

class Files (m : Type → Type) where
  read : Path → m (Except FileError (List UInt8))
  write : Path → Content → m (Except FileError Unit)
  /-- Make a directory and those above it, unless they are there. -/
  makeDirectory : Path → m (Except FileError Unit)
  isFile : Path → m (Except FileError Bool)
  isDirectory : Path → m (Except FileError Bool)
  /-- The names in a directory, in any order. -/
  names : Path → m (List String)

/-- Why a text cannot be read from a file. -/
inductive ReadError where
  | file (e : FileError)
  | text (e : Text.Utf8Error)
  deriving DecidableEq, Repr

def ReadError.message : ReadError → String
  | file e => e.message
  | text e => e.message

namespace Files

variable {m : Type → Type} [Monad m] [Files m]

/-- Read the text of a file, with its newlines unified. -/
def readText (p : Path) : m (Except ReadError (List Char)) := do
  match ← read p with
  | .error e => return .error (.file e)
  | .ok data => return ((Text.decode data).mapError .text).map Text.unifyNewlines

def writeText (p : Path) (text : List Char) : m (Except FileError Unit) :=
  write p (.bytes (Text.encode text))

end Files

end Triplet
