import Triplet.Command.Basic
import Triplet.Genome.Comparison
import Triplet.Number.Shortest
import Triplet.Similarity.Basic

/-! # Comparing two genome files

Print the codons that differ, or how similar two files are as texts.
-/

namespace Triplet.Command

variable {m : Type → Type} [Monad m]

/-- A codon in a table; one that is not there is a dash. -/
def codonCell (codon : List Char) : String := if codon.isEmpty then "-" else String.ofList codon

def differenceTable (differences : List Genome.Difference) : Console.Table where
  title := s!"{differences.length} codon difference(s)"
  columns := [⟨"position", .right⟩, ⟨"original", .left⟩, ⟨"mutated", .left⟩]
  rows := differences.map fun d => [toString d.place, codonCell d.before, codonCell d.after]

/-- A share as a percentage with one place. -/
def percentText (share : Float) : String := fixed 1 (share * 100) ++ "%"

variable [Files m]

def compare (before after : Path) : Command m Unit := do
  let first ← readGenome before
  let second ← readGenome after
  let comparison := Genome.Comparison.ofTexts first second
  if comparison.differences.isEmpty then
    say "[green]Genomes are identical at the codon level[/green]"
  else
    sayTable (differenceTable comparison.differences)

/-- Read a genome whose text may be an error as well. -/
def readEither (path : Path) : Command m (List Char) := do
  match ← readText path with
  | .error (.text e) => fail e.message
  | .error (.file e) => fail ("cannot read " ++ path.toText ++ ": " ++ e.message)
  | .ok text => return text

def similarity (a b : Path) (threshold : Float) : Command m Unit := do
  let first ← readEither a
  let second ← readEither b
  match readThreshold (.real threshold) with
  | .error f => crash (.fault f)
  | .ok (.error e) => fail e.message
  | .ok (.ok threshold) =>
    let s := Similarity.ofTexts first second
    let edit := percentText s.editSimilarity
    let common := percentText s.commonRatio
    say "[bold]Similarity Analysis:[/bold]"
    say s!"  File 1: {a.toText} ({s.lengthA} bases)"
    say s!"  File 2: {b.toText} ({s.lengthB} bases)"
    say ("  Edit similarity: " ++ edit)
    say s!"  Longest common substring: {s.common.length} bases ({common} of shorter file)"
    if s.isSimilar threshold then
      say "[yellow]⚠ Files are SIMILAR[/yellow]"
      exit 1
    say "[green]✓ Files are sufficiently different[/green]"

end Triplet.Command
