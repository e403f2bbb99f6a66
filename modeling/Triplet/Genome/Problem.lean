import Triplet.Genome.Token

/-! # Problems of a genome

Errors concern the structure of a program: it begins with a start codon, has a stop codon, and has
known codons only. Warnings concern letters that break the reading frame and code that is never
reached.
-/

namespace Triplet

inductive Severity where
  | error
  | warning
  deriving DecidableEq, Repr

def Severity.name : Severity → String
  | error => "error"
  | warning => "warning"

inductive Problem where
  | noStart (position : Int)
  | unknownCodon (codon : List Char) (line position : Int)
  | startAfterStop (position : Int)
  | noStop (position : Int)
  /-- A blank follows `count` letters more than a multiple of three. -/
  | brokenTriplet (line column count : Nat)
  /-- The letters of a strand are no multiple of three. -/
  | trailingBases (length : Nat)
  | empty
  | unreadable (reason : String)
  deriving DecidableEq, Repr

namespace Problem

def severity : Problem → Severity
  | startAfterStop _ | brokenTriplet .. | trailingBases _ => .warning
  | _ => .error

def position : Problem → Int
  | noStart p | unknownCodon _ _ p | startAfterStop p | noStop p => p
  | brokenTriplet _ column _ => column
  | trailingBases length => (length - length % 3 : Nat)
  | empty | unreadable _ => 0

def message : Problem → String
  | noStart _ => "Program should begin with START codon (ATG)"
  | unknownCodon codon line _ => s!"Unknown codon '{String.ofList codon}' at line {line}"
  | startAfterStop p => s!"START codon after STOP at position {p}"
  | noStop _ => "Program has no STOP codon (TAA, TAG, TGA)"
  | brokenTriplet line _ count =>
    s!"Mid-triplet break detected at line {line}. {count} base(s) before whitespace."
  | trailingBases length =>
    s!"Genome length {length} is not a multiple of 3; " ++
      s!"{length % 3} trailing base(s) are outside the reading frame"
  | empty => "Genome is empty"
  | unreadable reason => "Failed to read: " ++ reason

/-- A way to mend the problem. -/
def fix? : Problem → Option String
  | noStart _ => some "Add ATG at the beginning"
  | unknownCodon .. => some "Use only A, C, G, T (or U) bases"
  | startAfterStop _ => some "Remove unreachable code after STOP"
  | noStop _ => some "Add TAA at the end"
  | brokenTriplet .. => some "Remove whitespace or complete the codon"
  | trailingBases length => some s!"Add {3 - length % 3} base(s) or remove {length % 3}"
  | empty | unreadable _ => none

def isError (p : Problem) : Bool := p.severity = .error

end Problem

namespace Genome

variable (tokens : List Token)

def startProblems : List Problem :=
  match tokens.find? (!·.isOperand) with
  | none => [.noStart 0]
  | some first => if first.opcode? = some .start then [] else [.noStart first.position]

def unknownProblems : List Problem :=
  (tokens.filter Token.isUnknown).map fun t => .unknownCodon t.codon t.line t.position

/-- The start codons after the first stop codon. -/
def unreachableProblems : List Problem :=
  ((tokens.dropWhile (·.opcode? ≠ some .stop)).filter (·.opcode? = some .start)).map
    fun t => .startAfterStop t.position

def stopProblems : List Problem :=
  match tokens.getLast? with
  | none => []
  | some last => if tokens.any (·.opcode? = some .stop) then [] else [.noStop last.position]

/-- The problems of a token stream; an empty stream has none. -/
def structureProblems : List Problem :=
  if tokens.isEmpty then []
  else startProblems tokens ++ unknownProblems tokens ++ unreachableProblems tokens ++
    stopProblems tokens

/-- The breaks of one line: a blank right after a letter where the letters so far are no multiple
of three. -/
def breaks (number : Nat) (column count : Nat) (afterBlank : Bool) : List Char → List Problem
  | [] => []
  | c :: rest =>
    if Text.isBlank c then
      let isBreak := count % 3 ≠ 0 ∧ !afterBlank
      let found := if isBreak then [.brokenTriplet number column (count % 3)] else []
      found ++ breaks number (column + 1) count true rest
    else breaks number (column + 1) (count + 1) false rest

def breaksFrom (number : Nat) : List (List Char) → List Problem
  | [] => []
  | line :: rest => breaks number 0 0 false (code line) ++ breaksFrom (number + 1) rest

/-- The warnings about the reading frame of a text. -/
def frameProblems (text : List Char) : List Problem :=
  let length := (clean text).length
  breaksFrom 1 (Text.lines text) ++ if length % 3 = 0 then [] else [.trailingBases length]

/-- All problems of a text, those of the reading frame first. -/
def problems (text : List Char) : List Problem :=
  frameProblems text ++ structureProblems (Genome.tokens text)

/-- The tokens of a text without errors, or its errors. -/
def parse (text : List Char) : Except (List Problem) (List Token) :=
  let tokens := Genome.tokens text
  if tokens.isEmpty then .error [.empty]
  else
    match (structureProblems tokens).filter Problem.isError with
    | [] => .ok tokens
    | errors => .error errors

/-- The text for a genome that does not parse. -/
def parseMessage (errors : List Problem) : String :=
  "Parse error: " ++ "; ".intercalate (errors.map Problem.message)

end Genome

end Triplet
