import Triplet.Command.Arguments
import Triplet.Number.Entry
import Triplet.Path
import Triplet.Similarity.Basic

/-! # Requests

What a command is asked to do, as read from its arguments.
-/

namespace Triplet.Command

structure RunRequest where
  file : Path
  settings? : Option Path
  budget? : Option Int
  directory? : Option Path
  canvas : Bool
  deriving DecidableEq, Repr

structure MutateRequest where
  file : Path
  kind : String
  place? : Option Int
  seed? : Option Int
  settings? : Option Path
  output? : Option Path
  deriving DecidableEq, Repr

inductive Request where
  | validate (file : Path) (json verbose : Bool)
  | lint (paths : List Path) (json : Bool)
  | run (r : RunRequest)
  | mutate (r : MutateRequest)
  | compare (before after : Path)
  | similarity (a b : Path) (threshold : Float)
  | stats (file : Path)

/-- The names of the commands. -/
inductive Name where
  | validate | lint | run | mutate | compare | similarity | stats
  deriving DecidableEq, Repr

namespace Name

def all : List Name := [validate, lint, run, mutate, compare, similarity, stats]

def toText : Name → String
  | validate => "validate"
  | lint => "lint"
  | run => "run"
  | mutate => "mutate"
  | compare => "compare"
  | similarity => "similarity"
  | stats => "stats"

def ofText? (text : String) : Option Name := all.find? (·.toText == text)

def grammar : Name → Grammar
  | validate => ⟨["--json", "--verbose"], [('v', "--verbose")], []⟩
  | lint => ⟨["--json"], [], []⟩
  | run => ⟨["--render", "--no-render"], [], ["--config", "--max-instructions", "--run-dir"]⟩
  | mutate => ⟨[], [], ["--position", "--seed", "--config", "--output"]⟩
  | similarity => ⟨[], [], ["--threshold"]⟩
  | compare | stats => ⟨[], [], []⟩

end Name

namespace Request

/-- The positional arguments, if there are as many as names for them. -/
def exactly (count : Nat) (a : Arguments) : Except UsageError (List String) :=
  if a.positional.length < count then .error .argumentMissing
  else
    match a.positional.drop count with
    | [] => .ok a.positional
    | extra :: _ => .error (.argumentNotTaken extra)

/-- A path has no null character. -/
def path (text : String) : Except UsageError Path :=
  if (Path.ofText text).hasNull then .error (.notAPath text) else .ok (.ofText text)

/-- The path that was given to an option. -/
def path? (a : Arguments) (name : String) : Except UsageError (Option Path) :=
  match a.value? name with
  | none => .ok none
  | some value => (path value).map some

def one (a : Arguments) : Except UsageError Path := do
  match ← exactly 1 a with
  | [file] => path file
  | _ => throw .argumentMissing

def two (a : Arguments) : Except UsageError (Path × String) := do
  match ← exactly 2 a with
  | [first, second] => return (← path first, second)
  | _ => throw .argumentMissing

/-- An integer as an option takes it. -/
def int? (text : List Char) : Option Int := (Entry.int text).toOption

def ofArguments (a : Arguments) : Name → Except UsageError Request
  | .validate => do return validate (← one a) (a.has "--json") (a.has "--verbose")
  | .lint => do
    if a.positional.isEmpty then throw .argumentMissing
    return lint (← a.positional.mapM path) (a.has "--json")
  | .run => do
    return run {
      file := ← one a
      settings? := ← path? a "--config"
      budget? := ← a.number? "--max-instructions" int?
      directory? := ← path? a "--run-dir"
      canvas := a.last "--render" "--no-render" }
  | .mutate => do
    let (file, kind) ← two a
    return mutate {
      file, kind
      place? := ← a.number? "--position" int?
      seed? := ← a.number? "--seed" int?
      settings? := ← path? a "--config"
      output? := ← path? a "--output" }
  | .compare => do
    let (before, after) ← two a
    return compare before (← path after)
  | .similarity => do
    let (first, second) ← two a
    let threshold? ← a.number? "--threshold" Entry.double?
    return similarity first (← path second) (threshold?.getD defaultThreshold)
  | .stats => do return stats (← one a)

/-- Read the arguments that follow the name of a command. -/
def read (name : Name) (args : List String) : Except UsageError Request := do
  ofArguments (← name.grammar.read false args) name

end Request

end Triplet.Command
