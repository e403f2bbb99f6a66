import Triplet.Command.Basic
import Triplet.Number.Shortest
import Triplet.Usage.Basic

/-! # Statistics of a genome file

Print the size of a genome and the use it makes of codons.
-/

namespace Triplet.Command

variable {m : Type → Type} [Monad m]

/-- Cut a text at all characters that end lines. -/
def paperLines : List Char → List (List Char)
  | [] => [[]]
  | c :: rest =>
    if Text.isLineEnd c then [] :: paperLines rest
    else
      match paperLines rest with
      | [] => [[c]]
      | line :: more => (c :: line) :: more

/-- The numbers of lines with code and with comments only. -/
def lineCounts (text : List Char) : Nat × Nat :=
  let lines := ((paperLines text).map Text.trim).filter (!·.isEmpty)
  let comments := lines.filter fun line => (line.head?.map Genome.isComment).getD false
  (lines.length - comments.length, comments.length)

/-- The families with a share, the largest first. -/
def familyTable (u : Usage) : Console.Table where
  title := "Opcode families"
  columns := [⟨"family", .left⟩, ⟨"share", .right⟩]
  rows :=
    let shares : List (Family × Float) := Family.all.map fun f => (f, u.familyShare f)
    let sorted := shares.mergeSort fun a b => b.2 ≤ a.2
    (sorted.filter fun (_, share) => share != 0).map fun (f, share) =>
      [f.name, fixed 1 share ++ "%"]

variable [Files m]

def stats (file : Path) : Command m Unit := do
  let text ← readGenome file
  let u := Usage.ofTokens (Genome.tokens text)
  let (code, comments) := lineCounts text
  let bases := (Genome.clean text).length
  say s!"[bold]Genome Statistics: {file.toText}[/bold]"
  say s!"  Total bases: {bases}"
  say s!"  Total codons: {u.total}"
  say s!"  Lines of code: {code}"
  say s!"  Comment lines: {comments}"
  say ("  GC content: " ++ fixed 1 u.gcContent ++ "%")
  say ("  AT content: " ++ fixed 1 u.atContent ++ "%")
  sayTable (familyTable u)
  let top := u.codons.top Usage.topLength
  if !top.isEmpty then
    let parts := top.map fun (codon, count) => String.ofList codon ++ s!" x{count}"
    say ("  Top codons: " ++ ", ".intercalate parts)
  if 0 < code then
    let mean : Float := ratio u.total code
    say ("  Avg codons per line: " ++ fixed 1 mean)

end Triplet.Command
