import Triplet.Command.Basic

/-! # Validation

Check a genome, or all genomes of some files and directories, and print the problems.
-/

namespace Triplet.Command

variable {m : Type → Type} [Monad m]

/-- Print a problem and how to mend it, behind some spaces. -/
def sayProblem (indent : String) (p : Problem) : Command m Unit := do
  let (icon, color) := if p.isError then ("✗", "red") else ("⚠", "yellow")
  say s!"{indent}[{color}]{icon} {p.message} (position {p.position})[/{color}]"
  if let some fix := p.fix? then
    say s!"{indent}  [dim]Fix: {fix}[/dim]"

/-- The findings about a genome file. -/
structure Finding where
  file : Path
  problems : List Problem

namespace Finding

def isValid (f : Finding) : Bool := f.problems.isEmpty

def members (f : Finding) : List (String × Json) :=
  [("file", .string f.file.toText), ("valid", .bool f.isValid),
    ("errors", .list (f.problems.map Problem.toJson))]

def say (f : Finding) : Command m Unit := do
  if f.isValid then
    Command.say s!"[green]✓ {f.file.toText}[/green]"
  else
    Command.say s!"[red]✗ {f.file.toText}:[/red]"
    f.problems.forM (sayProblem "    ")

end Finding

variable [Files m]

def validate (file : Path) (json verbose : Bool) : Command m Unit := do
  let text ← readGenome file
  let finding : Finding := ⟨file, Genome.problems text⟩
  let problems := finding.problems
  let codons := (Genome.tokens text).length
  let bases := (Genome.clean text).length
  if json then
    let stats := Json.object [("codons", .int codons), ("bases", .int bases)]
    echo ((Json.object (finding.members ++ [("stats", stats)])).pretty 0)
  else if finding.isValid then
    say s!"[green]✓ {file.toText} is valid[/green]"
    if verbose then
      say s!"  [dim]Codons: {codons}[/dim]"
      say s!"  [dim]Bases: {bases}[/dim]"
  else
    say s!"[red]✗ {file.toText} has {problems.length} problem(s):[/red]"
    problems.forM (sayProblem "  ")
  if problems.any Problem.isError then exit 1

/-- The genome files of a directory in the order of their names; any other path stands for
itself. -/
def expand (path : Path) : Command m (List Path) := do
  if !(← perform (Files.isDirectory (m := m) path)) then return [path]
  let names ← (liftM (Files.names (m := m) path) : Command m (List String))
  let genomes := (names.filter (·.endsWith ".genome")).mergeSort fun a b => !(b < a)
  (genomes.map fun name => path.join (.ofText name)).filterM fun file =>
    perform (Files.isFile (m := m) file)

/-- The problems of a genome file; one that cannot be opened has this as its only problem. -/
def examine (file : Path) : Command m Finding := do
  match ← readText file with
  | .ok text => return ⟨file, Genome.problems text⟩
  | .error (.file e) => return ⟨file, [.unreadable e.message]⟩
  | .error e => crash (.read e)

def lint (paths : List Path) (json : Bool) : Command m Unit := do
  let files ← paths.flatMapM expand
  let findings ← files.mapM examine
  let total := findings.length
  let valid := (findings.filter Finding.isValid).length
  let invalid := total - valid
  if json then
    echo ((Json.object [("total", .int total), ("valid", .int valid), ("invalid", .int invalid),
      ("results", .list (findings.map fun f => .object f.members))]).pretty 0)
  else
    say "[bold]Validation Summary:[/bold]"
    say s!"  [green]✓ Valid: {valid}[/green]"
    say s!"  [red]✗ Invalid: {invalid}[/red]"
    say s!"  [dim]Total: {total}[/dim]"
    findings.forM Finding.say
  if 0 < invalid then exit 1

end Triplet.Command
