import Triplet.Command.Arguments
import Triplet.Console.Table
import Triplet.Job
import Triplet.Random.Seed
import Triplet.Settings.Document

/-! # Commands

A command reads and writes files and prints texts. It runs to its end, exits before it with a code,
or breaks off for a cause that it does not handle.
-/

namespace Triplet

/-- The causes for which a command breaks off. -/
inductive Crash where
  | read (e : ReadError)
  | write (e : FileError)
  | markup (e : Console.MarkupError)
  | job (e : JobError)
  | seed (e : Random.SeedError)
  /-- Settings that are no table. -/
  | settings
  /-- Settings with a scalar that has no value. -/
  | scalar (e : Yaml.ScalarError)
  | fault (f : Fault)
  /-- A level of messages that does not exist. -/
  | level (name : String)

def Crash.message : Crash → String
  | read e => e.message
  | write e => e.message
  | markup e => e.message
  | job e => e.message?.getD "the genome could not be run"
  | seed e => e.message?.getD "the seed is no number"
  | settings => "the settings are not a table"
  | scalar e => e.message?.getD "a scalar of the settings has no value"
  | fault f => f.message?.getD "an operation failed"
  | level name => "Unknown level: " ++ Text.quote name

inductive Ending where
  | exit (code : Nat)
  | usage (e : Command.UsageError)
  | crash (c : Crash)

/-- Commands over files, with the text printed so far. -/
abbrev Command (m : Type → Type) := ExceptT Ending (StateT String m)

namespace Command

/-- What is left of a command when it has ended. -/
structure Outcome where
  ending? : Option Ending
  printed : String

def Outcome.code (o : Outcome) : Nat :=
  match o.ending? with
  | none => 0
  | some (.exit code) => code
  | some (.usage _) => 2
  | some (.crash _) => 1

variable {m : Type → Type} [Monad m] {α : Type}

def outcome (command : Command m Unit) : m Outcome := do
  match ← (command.run).run "" with
  | (.ok _, printed) => return ⟨none, printed⟩
  | (.error ending, printed) => return ⟨some ending, printed⟩

def exit (code : Nat) : Command m α := throw (.exit code)

def crash (c : Crash) : Command m α := throw (.crash c)

/-- Print a text as it is. -/
def echo (text : String) : Command m Unit :=
  modify fun (printed : String) => printed ++ text ++ "\n"

/-- Print a line with markup. -/
def say (markup : String) : Command m Unit := do
  match Console.shown markup.toList with
  | .ok line => echo (String.ofList line)
  | .error e => crash (.markup e)

/-- Print a table. -/
def sayTable (table : Console.Table) : Command m Unit := do
  match table.lines with
  | .ok lines => echo (String.ofList (['\n'].intercalate lines))
  | .error e => crash (.markup e)

/-- Print an error and exit. -/
def fail (message : String) : Command m α := do
  say ("[red]Error: " ++ String.ofList (Console.escape message.toList) ++ "[/red]")
  exit 1

variable [Files m]

def perform (action : m (Except FileError α)) : Command m α := do
  match ← (liftM action : Command m (Except FileError α)) with
  | .ok a => return a
  | .error e => crash (.write e)

/-- Read a file, or why it cannot be read. -/
def readText (path : Path) : Command m (Except ReadError (List Char)) :=
  liftM (Files.readText (m := m) path)

/-- Read a genome; a missing file is an error, an unreadable text breaks off. -/
def readGenome (path : Path) : Command m (List Char) := do
  match ← readText path with
  | .ok text => return text
  | .error (.file e) => fail ("cannot read " ++ path.toText ++ ": " ++ e.message)
  | .error e => crash (.read e)

/-- Read settings from a file; without a file there are the defaults. -/
def readSettings : Option Path → Command m Settings
  | none => return Settings.default
  | some path => do
    let invalid (reason : String) : Command m Settings :=
      fail ("invalid config " ++ path.toText ++ ": " ++ reason)
    match ← readText path with
    | .error (.file e) => invalid e.message
    | .error e => crash (.read e)
    | .ok text =>
      match Settings.ofText text with
      | .ok settings => return settings
      | .error .notATable => crash .settings
      | .error (.document (.scalar e)) => crash (.scalar e)
      | .error e => invalid e.message

end Command

end Triplet
