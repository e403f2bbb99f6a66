import Triplet.Codon
import Triplet.Genome.Strand
import Triplet.Value

/-! # Changes

A mutation is one change at one place of a genome: another codon, another base, or bases put in or
taken out. Each change has a one-line description.
-/

namespace Triplet

/-- The kinds of mutation by their names. -/
inductive MutationKind where
  | silent | missense | nonsense | point | insertion | deletion | frameshift
  deriving DecidableEq, Repr

namespace MutationKind

def all : List MutationKind :=
  [silent, missense, nonsense, point, insertion, deletion, frameshift]

def name : MutationKind → String
  | silent => "silent"
  | missense => "missense"
  | nonsense => "nonsense"
  | point => "point"
  | insertion => "insertion"
  | deletion => "deletion"
  | frameshift => "frameshift"

def ofName? (name : String) : Option MutationKind := all.find? (·.name == name)

def unknownMessage (name : String) : String := Text.quote name ++ " is not a valid MutationType"

end MutationKind

/-- Bases put into a strand, or letters taken out of it. -/
inductive Edit where
  | insertion (added : List Base)
  | deletion (removed : List Char)
  deriving DecidableEq, Repr

inductive Change where
  | silent (old : List Char) (new : Codon)
  | missense (old : List Char) (new : Codon)
  | nonsense (old : List Char)
  | point (old : Char) (new : Base)
  | edit (e : Edit)
  /-- An edit whose length is no multiple of three. -/
  | frameshift (e : Edit)
  deriving DecidableEq, Repr

namespace Edit

def kind : Edit → MutationKind
  | insertion _ => .insertion
  | deletion _ => .deletion

/-- A number of bases in words. -/
def bases (count : Int) : String := toString count ++ if count = 1 then " base" else " bases"

def describe (position : Value) : Edit → String
  | insertion added =>
    "Insertion at base " ++ position.display ++ ": +" ++ String.ofList (added.map Base.toChar) ++
      " (" ++ bases added.length ++ ")"
  | deletion removed =>
    "Deletion at base " ++ position.display ++ ": -" ++ String.ofList removed ++
      " (" ++ bases removed.length ++ ")"

end Edit

namespace Change

def kind : Change → MutationKind
  | silent .. => .silent
  | missense .. => .missense
  | nonsense _ => .nonsense
  | point .. => .point
  | edit e => e.kind
  | frameshift _ => .frameshift

def opcodeName (codon : List Char) : String :=
  ((Codon.opcode? codon).map Opcode.name).getD "UNKNOWN"

/-- Something old becomes something new. -/
def arrow (old new : List Char) : String := String.ofList old ++ " → " ++ String.ofList new

def describe (position : Value) : Change → String
  | silent old new =>
    "Silent mutation: " ++ arrow old new.toText ++ " (same opcode: " ++ opcodeName old ++ ")"
  | missense old new =>
    "Missense mutation: " ++ arrow old new.toText ++ " (" ++ opcodeName old ++ " → " ++
      new.opcode.name ++ ")"
  | nonsense old => "Nonsense mutation: " ++ arrow old Codon.stop.toText ++ " (early termination)"
  | point old new =>
    "Point mutation at base " ++ position.display ++ ": " ++ arrow [old] [new.toChar]
  | edit e => e.describe position
  | frameshift e => "Frameshift (" ++ e.kind.name ++ "): " ++ e.describe position

end Change

/-- A genome text after a change, and where the change was made. -/
structure Mutation where
  mutated : List Char
  place : Nat
  change : Change
  deriving DecidableEq, Repr

def Mutation.describe (m : Mutation) : String := m.change.describe (.int m.place)

end Triplet
