import Triplet.Files

/-! # Disks in memory

A disk holds files and directories below a working directory. It serves as files for commands that
are to leave no other trace.
-/

namespace Triplet

/-- The names that lead to a file or directory from the working directory. -/
abbrev Place := List String

structure Disk where
  /-- The working directory. -/
  home : Place
  files : List (Place × Content)
  directories : List Place

namespace Disk

/-- A disk on which there is an empty working directory. -/
def empty : Disk := ⟨["home"], [], [["home"]]⟩

def file? (d : Disk) (p : Place) : Option Content := d.files.lookup p

def isDirectoryAt (d : Disk) (p : Place) : Bool := p.isEmpty || d.directories.contains p

/-- All directories above a place. -/
def above (p : Place) : List Place := (List.range p.length).map fun n => p.take n

/-- A file at a place, with all directories above it. -/
def withFile (d : Disk) (p : Place) (c : Content) : Disk where
  home := d.home
  files := (p, c) :: d.files.filter (·.1 ≠ p)
  directories := (above p).filter (fun q => !d.directories.contains q) ++ d.directories

/-- The most bytes in a name. -/
def nameLimit : Nat := 255

/-- Texts of paths have fewer bytes. -/
def pathLimit : Nat := 4096

/-- Where a name leads from a directory. -/
def enter (here : Place) (name : String) : Except FileCause Place :=
  if name = ".." then .ok here.dropLast
  else if nameLimit < name.utf8ByteSize then .error .nameTooLong
  else .ok (here ++ [name])

/-- Follow names from a directory; all but the last must be directories. -/
def follow (d : Disk) (here : Place) : List String → Except FileCause Place
  | [] => .ok here
  | [name] => enter here name
  | name :: rest => do
    let there ← enter here name
    if d.isDirectoryAt there then follow d there rest
    else throw (if (d.file? there).isSome then .notADirectory else .missing)

/-- Where a path begins, unless it is no path at all. -/
def start (d : Disk) (p : Path) : Except FileCause Place :=
  if p.hasNull then .error .nullCharacter
  else if pathLimit ≤ p.toText.utf8ByteSize then .error .nameTooLong
  else .ok (if p.slashes = 0 then d.home else [])

/-- The place of a path. -/
def place (d : Disk) (p : Path) : Except FileError Place :=
  (do d.follow (← d.start p) p.names : Except FileCause Place).mapError fun c => ⟨c, p⟩

def read (p : Path) (d : Disk) : Except FileError (List UInt8) := do
  let there ← d.place p
  if d.isDirectoryAt there then throw ⟨.isADirectory, p⟩
  match d.file? there with
  | some (.bytes data) => return data
  | some (.picture _) => return []
  | none => throw ⟨.missing, p⟩

def write (p : Path) (c : Content) (d : Disk) : Except FileError Disk := do
  let there ← d.place p
  if d.isDirectoryAt there then throw ⟨.isADirectory, p⟩
  if !d.isDirectoryAt there.dropLast then throw ⟨.missing, p⟩
  return d.withFile there c

/-- Make the directories on the way along some names. -/
def makeAlong (d : Disk) (here : Place) : List String → Except FileCause Disk
  | [] => .ok d
  | name :: rest => do
    let there ← enter here name
    if (d.file? there).isSome then throw (if rest.isEmpty then .alreadyThere else .notADirectory)
    let d := if d.isDirectoryAt there then d else { d with directories := there :: d.directories }
    makeAlong d there rest

def makeDirectory (p : Path) (d : Disk) : Except FileError Disk :=
  (do d.makeAlong (← d.start p) p.names : Except FileCause Disk).mapError fun c => ⟨c, p⟩

/-- Test the place of a path. Where nothing can be there, the test fails. -/
def test (p : Path) (d : Disk) (f : Place → Bool) : Except FileError Bool :=
  match d.place p with
  | .ok there => .ok (f there)
  | .error e => if e.cause = .nameTooLong then .error e else .ok false

def isFile (p : Path) (d : Disk) : Except FileError Bool :=
  test p d fun there => !d.isDirectoryAt there && (d.file? there).isSome

def isDirectory (p : Path) (d : Disk) : Except FileError Bool := test p d d.isDirectoryAt

/-- The last names of the places right below a directory. -/
def names (p : Path) (d : Disk) : List String :=
  match d.place p with
  | .ok there =>
    (d.files.map (·.1) ++ d.directories).filterMap fun q =>
      if q.dropLast = there && !q.isEmpty then q.getLast? else none
  | .error _ => []

instance : Files (StateM Disk) where
  read p := return Disk.read p (← get)
  write p c := do
    match Disk.write p c (← get) with
    | .ok d =>
      set d
      return .ok ()
    | .error e => return .error e
  makeDirectory p := do
    match Disk.makeDirectory p (← get) with
    | .ok d =>
      set d
      return .ok ()
    | .error e => return .error e
  isFile p := return Disk.isFile p (← get)
  isDirectory p := return Disk.isDirectory p (← get)
  names p := return Disk.names p (← get)

end Disk

end Triplet
