import Triplet.Number.Reading

/-! # Entered numbers

Numbers as they are entered in settings and options: digits of ASCII, with blanks around, a sign,
and single underscores between digits. An integer may have a fraction of zeros.
-/

namespace Triplet.Entry

/-- Why a text is no integer. -/
inductive IntError where
  | notAnInteger
  | tooManyDigits
  deriving DecidableEq, Repr

/-- Leave out the zeros that lead a number, with the underscores among them, up to a last character
that stands alone or before a point. -/
def dropZeros : List Char → Option (List Char)
  | '0' :: rest =>
    let zeros := rest.takeWhile fun c => c = '0' || c = '_'
    match rest.drop zeros.length with
    | [] => some [zeros.getLast?.getD '0']
    | '.' :: more => some (zeros.getLast?.getD '0' :: '.' :: more)
    | c :: more => if c.isDigit || c = '-' then some (c :: more) else none
  | c :: rest => if c.isDigit || c = '-' then some (c :: rest) else none
  | [] => none

/-- Leave out a fraction of one zero or more. -/
def dropFraction (text : List Char) : List Char :=
  let whole := text.takeWhile (· ≠ '.')
  let zeros := (text.drop whole.length).drop 1
  if !zeros.isEmpty && zeros.all (· = '0') then whole else text

/-- Read digits with single underscores between them; `after` says whether a digit stands before
the text. -/
def digits? (after : Bool) (value : Nat) : List Char → Option Nat
  | [] => if after then some value else none
  | '_' :: rest => if after then digits? false value rest else none
  | c :: rest =>
    if c.isDigit then digits? true (10 * value + (c.toNat - '0'.toNat)) rest else none

def digitCount (text : List Char) : Nat := (text.filter Char.isDigit).length

/-- Whether a text is a plain number: digits of which the first is no zero, behind a minus sign or
none. -/
def isPlain (text : List Char) : Bool :=
  let digits := if text.head? = some '-' then text.drop 1 else text
  digits.all Char.isDigit && digits.head?.any (· ≠ '0')

/-- Read an integer. Only of a plain number it is said that it has too many digits. -/
def int (text : List Char) : Except IntError Int :=
  let text := Reading.trim text
  let isPlus := text.head? = some '+'
  let unsigned := if isPlus then text.drop 1 else text
  let cleaned? :=
    if isPlus && unsigned.head? = some '-' then none else (dropZeros unsigned).map dropFraction
  let number? (digits : List Char) : Option Nat :=
    if Reading.digitLimit < digitCount digits then none else digits? false 0 digits
  let value? : Option Int :=
    match cleaned? with
    | none => none
    | some ('-' :: rest) => (number? rest).map fun n => -(n : Int)
    | some rest => (number? rest).map fun n => (n : Int)
  match value? with
  | some n => .ok n
  | none =>
    if isPlain text && Reading.digitLimit < digitCount text then .error .tooManyDigits
    else .error .notAnInteger

/-- Whether a text has ASCII characters only and none of them is an underscore. -/
def isBare (text : List Char) : Bool := text.all fun c => c.toNat < 128 && c ≠ '_'

/-- Read a double without underscores. -/
def bareDouble? (text : List Char) : Option Float :=
  if isBare text then Reading.double? text else none

/-- Leave out underscores that stand alone inside a text. -/
def dropUnderscores? (text : List Char) : Option (List Char) :=
  let isDouble := (text.zip text.tail).any fun (a, b) => a = '_' && b = '_'
  if text.head? = some '_' || text.getLast? = some '_' || isDouble then none
  else some (text.filter (· ≠ '_'))

/-- Read a double. Blanks stand around a double without underscores only. -/
def double? (text : List Char) : Option Float :=
  let trimmed := Reading.trim text
  if trimmed.contains '_' then
    if trimmed = text then (dropUnderscores? text).bind bareDouble? else none
  else bareDouble? trimmed

end Triplet.Entry
