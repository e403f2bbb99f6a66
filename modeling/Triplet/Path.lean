import Triplet.Text.Blank

/-! # Paths

A path is a list of names below a root or below the working directory. Empty names and single dots
are dropped when a path is read; double dots are kept.
-/

namespace Triplet

structure Path where
  /-- The number of slashes at the front: none, one, or exactly two. -/
  slashes : Nat
  names : List String
  deriving DecidableEq, Repr

namespace Path

def ofText (text : String) : Path :=
  let letters := text.toList
  let slashes := (letters.takeWhile (· = '/')).length
  let names := (Text.split '/' letters).filter fun p => p ≠ [] && p ≠ ['.']
  ⟨if 2 < slashes then 1 else slashes, names.map String.ofList⟩

def toText (p : Path) : String :=
  let text := String.ofList (List.replicate p.slashes '/') ++ "/".intercalate p.names
  if text.isEmpty then "." else text

/-- The second path as seen from the first. -/
def join (p q : Path) : Path := if q.slashes = 0 then ⟨p.slashes, p.names ++ q.names⟩ else q

/-- The last name, empty if there is none. -/
def name (p : Path) : String := p.names.getLast?.getD ""

def hasNull (p : Path) : Bool := p.names.any fun name => name.toList.contains (Char.ofNat 0)

def parent (p : Path) : Path := { p with names := p.names.dropLast }

/-- The last name without what follows its last dot. A dot at either end of the name does not
count. -/
def stem (p : Path) : String :=
  let letters := p.name.toList
  let after := (letters.reverse.takeWhile (· ≠ '.')).length
  let before := letters.length - after - 1
  if 0 < after && after < letters.length && 0 < before then String.ofList (letters.take before)
  else p.name

end Path

end Triplet
