import Triplet.Opcode
import Triplet.Text.Case

/-! # Codons

Three bases make a codon, and each of the 64 codons names an opcode. As an operand a codon is a
number of three digits in base four. Texts are read as codons in any case and with `U` for `T`.
-/

namespace Triplet

inductive Base where
  | a | c | g | t
  deriving DecidableEq, Repr

namespace Base

def all : List Base := [a, c, g, t]

def toChar : Base → Char
  | a => 'A'
  | c => 'C'
  | g => 'G'
  | t => 'T'

def ofChar? : Char → Option Base
  | 'A' => some a
  | 'C' => some c
  | 'G' => some g
  | 'T' => some t
  | _ => none

def digit : Base → Nat
  | a => 0
  | c => 1
  | g => 2
  | t => 3

@[simp] theorem ofChar?_toChar (b : Base) : ofChar? b.toChar = some b := by cases b <;> rfl

theorem toChar_of_ofChar? {ch : Char} {b : Base} (h : ofChar? ch = some b) : b.toChar = ch := by
  unfold ofChar? at h
  split at h <;> simp_all [toChar] <;> (subst h; rfl)

end Base

structure Codon where
  first : Base
  second : Base
  third : Base
  deriving DecidableEq, Repr

namespace Codon

/-- The codons in the order of their values. -/
def all : List Codon :=
  Base.all.flatMap fun x => Base.all.flatMap fun y => Base.all.map fun z => ⟨x, y, z⟩

theorem mem_all (c : Codon) : c ∈ all := by
  rcases c with ⟨x, y, z⟩
  cases x <;> cases y <;> cases z <;> decide

def toText (c : Codon) : List Char := [c.first.toChar, c.second.toChar, c.third.toChar]

def ofText? : List Char → Option Codon
  | [x, y, z] => do return ⟨← Base.ofChar? x, ← Base.ofChar? y, ← Base.ofChar? z⟩
  | _ => none

@[simp] theorem ofText?_toText (c : Codon) : ofText? c.toText = some c := by
  simp [ofText?, toText]

/-- The number that the codon stands for as an operand. -/
def value (c : Codon) : Nat := c.first.digit * 16 + c.second.digit * 4 + c.third.digit

/-- Where two bases decide the opcode, the third is free. -/
def opcode : Codon → Opcode
  | ⟨.g, .g, _⟩ => .circle
  | ⟨.c, .c, _⟩ => .rect
  | ⟨.a, .a, _⟩ => .line
  | ⟨.g, .c, _⟩ => .triangle
  | ⟨.g, .t, _⟩ => .ellipse
  | ⟨.a, .c, _⟩ => .translate
  | ⟨.a, .g, _⟩ => .rotate
  | ⟨.c, .g, _⟩ => .scale
  | ⟨.t, .t, _⟩ => .color
  | ⟨.g, .a, _⟩ => .push
  | ⟨.a, .t, .g⟩ => .start
  | ⟨.a, .t, _⟩ => .dup
  | ⟨.t, .a, .a⟩ | ⟨.t, .a, .g⟩ | ⟨.t, .g, .a⟩ => .stop
  | ⟨.t, .a, .c⟩ | ⟨.t, .a, .t⟩ | ⟨.t, .g, .c⟩ => .pop
  | ⟨.t, .g, .g⟩ | ⟨.t, .g, .t⟩ => .swap
  | ⟨.t, .c, .a⟩ | ⟨.t, .c, .c⟩ => .save
  | ⟨.t, .c, .g⟩ | ⟨.t, .c, .t⟩ => .restore
  | ⟨.c, .t, .a⟩ => .eq
  | ⟨.c, .t, .c⟩ => .lt
  | ⟨.c, .t, .g⟩ => .add
  | ⟨.c, .t, .t⟩ => .mul
  | ⟨.c, .a, .a⟩ => .loop
  | ⟨.c, .a, .c⟩ => .nop
  | ⟨.c, .a, .g⟩ => .sub
  | ⟨.c, .a, .t⟩ => .div

/-- The codon that a nonsense mutation writes. -/
def stop : Codon := ⟨.t, .a, .a⟩

def start : Codon := ⟨.a, .t, .g⟩

/-- The other codons with the same opcode. -/
def synonyms (c : Codon) : List Codon := all.filter fun d => d.opcode = c.opcode ∧ d ≠ c

/-- The codons with another opcode that does not stop the program. -/
def missense (c : Codon) : List Codon :=
  all.filter fun d => d.opcode ≠ c.opcode ∧ d.opcode ≠ .stop

/-- Upper case, with every `U` read as `T`. -/
def normalize (text : List Char) : List Char :=
  (Text.upperAll text).map fun ch => if ch = 'U' then 'T' else ch

/-- Read a text as one of the 64 codons. -/
def read? (text : List Char) : Option Codon := ofText? (normalize text)

/-- The opcode that a text names. -/
def opcode? (text : List Char) : Option Opcode := (read? text).map opcode

/-- Why the first three letters of a text are no number. -/
inductive OperandError where
  | tooShort
  | notABase (letter : Char)
  deriving DecidableEq, Repr

/-- Read the digits of a number off the first letters of a text. -/
def digits : Nat → List Char → Except OperandError (List Nat)
  | 0, _ => .ok []
  | _ + 1, [] => .error .tooShort
  | n + 1, ch :: rest =>
    match Base.ofChar? ch with
    | none => .error (.notABase ch)
    | some b => (digits n rest).map (b.digit :: ·)

/-- The number in base four that the first three letters of a text spell. -/
def operand (text : List Char) : Except OperandError Nat :=
  (digits 3 (normalize text)).map (·.foldl (fun n d => 4 * n + d) 0)

end Codon

/-- The codons that name an opcode. -/
def Opcode.codons (op : Opcode) : List Codon := Codon.all.filter (·.opcode = op)

/-- Whether a text names a stop codon. -/
def Codon.isStop (text : List Char) : Bool := Codon.opcode? text = some .stop

/-- The places of the codons that are operands: those after a `PUSH` that is no operand itself. -/
def operandPlaces : List (List Char) → List Nat := go false 0
where
  go (operand : Bool) (index : Nat) : List (List Char) → List Nat
    | [] => []
    | codon :: rest =>
      if operand then index :: go false (index + 1) rest
      else go (Codon.opcode? codon = some .push) (index + 1) rest

end Triplet
