import Triplet.Number.Dyadic
import Triplet.Text.Blank
import Triplet.Text.Digit

/-! # Numbers in text

Integers and doubles as they are typed: blanks around, a sign, digits of any script with single
underscores between them, and for doubles a fraction, an exponent, or a word for an infinite value.
-/

namespace Triplet.Reading

/-- The blanks that may stand around a number: all but the separators of records. -/
def isOuterBlank (c : Char) : Bool := Text.isBlank c && !(28 ≤ c.toNat && c.toNat ≤ 31)

/-- Drop the blanks around a number. -/
def trim (text : List Char) : List Char :=
  ((text.dropWhile isOuterBlank).reverse.dropWhile isOuterBlank).reverse

/-- A run of digits: its value, its length, and what follows. -/
structure Run where
  value : Nat
  length : Nat
  rest : List Char

/-- Read digits with single underscores between them. -/
def digits (value length : Nat) : List Char → Run
  | [] => ⟨value, length, []⟩
  | c :: rest =>
    match Text.digitValue? c with
    | some d => digits (10 * value + d) (length + 1) rest
    | none =>
      match c, rest with
      | '_', e :: rest' =>
        match length, Text.digitValue? e with
        | _ + 1, some d => digits (10 * value + d) (length + 1) rest'
        | _, _ => ⟨value, length, c :: rest⟩
      | _, _ => ⟨value, length, c :: rest⟩

/-- Read a sign; `true` stands for minus. -/
def sign : List Char → Bool × List Char
  | '-' :: rest => (true, rest)
  | '+' :: rest => (false, rest)
  | rest => (false, rest)

/-- The most digits that the text of an integer may have. -/
def digitLimit : Nat := 4300

/-- Why a text is no integer. -/
inductive IntError where
  | notAnInteger
  | tooManyDigits (count : Nat)
  deriving DecidableEq, Repr

/-- Read a whole text as an integer. The digits are counted before it is seen that something else
follows them. -/
def int (text : List Char) : Except IntError Int :=
  let (negative, rest) := sign (trim text)
  let run := digits 0 0 rest
  if digitLimit < run.length then .error (.tooManyDigits run.length)
  else if run.length = 0 ∨ run.rest ≠ [] then .error .notAnInteger
  else .ok (if negative then -(run.value : Int) else run.value)

/-- Scale decimal digits by a power of ten. Powers far outside the range of doubles give an
infinite value or zero without being computed. -/
def scale (negative : Bool) (value : Nat) (exponent : Int) : Float :=
  let length := (Nat.toDigits 10 value).length
  if value = 0 then Dyadic.ofRatio negative 0 1
  else if 400 < exponent + length then Dyadic.ofRatio negative (Nat.pow 2 1024) 1
  else if exponent + length < -400 then Dyadic.ofRatio negative 0 1
  else doubleOfDecimal negative value exponent

/-- Read the exponent after the digits of a double; it must end the text. -/
def exponent? : List Char → Option Int
  | [] => some 0
  | c :: rest =>
    if c = 'e' ∨ c = 'E' then
      let (negative, rest) := sign rest
      let run := digits 0 0 rest
      if run.length = 0 ∨ run.rest ≠ [] then none
      else some (if negative then -(run.value : Int) else run.value)
    else none

/-- Read the words for values that are not finite. -/
def word? (negative : Bool) (text : List Char) : Option Float :=
  let lower := String.ofList (text.map Char.toLower)
  if lower = "inf" ∨ lower = "infinity" then some (Dyadic.ofRatio negative (Nat.pow 2 1024) 1)
  else if lower = "nan" then some (0.0 / 0.0)
  else none

/-- Read a whole text as a double. -/
def double? (text : List Char) : Option Float :=
  let (negative, rest) := sign (trim text)
  match word? negative rest with
  | some x => some x
  | none =>
    let whole := digits 0 0 rest
    match whole.rest with
    | '.' :: after =>
      let fraction := digits 0 0 after
      if whole.length + fraction.length = 0 then none
      else
        (exponent? fraction.rest).map fun e =>
          scale negative (whole.value * Nat.pow 10 fraction.length + fraction.value)
            (e - fraction.length)
    | rest =>
      if whole.length = 0 then none
      else (exponent? rest).map fun e => scale negative whole.value e

end Triplet.Reading
