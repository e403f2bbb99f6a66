import Triplet.Number.Reading
import Triplet.Text.Blank
import Triplet.Text.Digit
import Triplet.Text.Lower
import Triplet.Yaml.Cursor

/-! # YAML numbers

Integers are binary after `0b`, hexadecimal after `0x`, octal after `0`, and parts between colons
count sixty times the next. Underscores are left out.
-/

namespace Triplet.Yaml

def isDigits (text : List Char) : Bool := text.all fun c => c.isDigit || c = '_'

/-- Whether a part counts less than sixty. -/
def isSixtieth : List Char → Bool
  | [a] => a.isDigit
  | [a, b] => '0' ≤ a && a ≤ '5' && b.isDigit
  | _ => false

/-- Whether digits follow one, and perhaps parts less than sixty them. -/
def isDecimalInteger (text : List Char) : Bool :=
  match Text.split ':' text with
  | [] => false
  | part :: more => part.head?.any (fun c => c.isDigit && c ≠ '0') && isDigits part &&
      more.all isSixtieth

/-- Whether a plain scalar is an integer. -/
def isInteger (text : List Char) : Bool :=
  let (_, rest) := Reading.sign text
  let consists (p : Char → Bool) (digits : List Char) : Bool :=
    !digits.isEmpty && digits.all fun c => c = '_' || p c
  match rest with
  | '0' :: 'b' :: digits => consists (fun c => c = '0' || c = '1') digits
  | '0' :: 'x' :: digits => consists Text.isHexDigit digits
  | ['0'] => true
  | '0' :: digits => consists (fun c => '0' ≤ c && c ≤ '7') digits
  | _ => isDecimalInteger rest

/-- Whether a text is an exponent with a sign, or nothing. -/
def isExponent : List Char → Bool
  | [] => true
  | e :: s :: rest =>
    (e = 'e' || e = 'E') && (s = '+' || s = '-') && !rest.isEmpty && rest.all Char.isDigit
  | _ => false

/-- Whether a plain scalar is a double: digits, a point, digits and an exponent, parts with a point
in the last, or a word. A number that begins with its point has no sign. -/
def isDouble (text : List Char) : Bool :=
  let (_, rest) := Reading.sign text
  let starts (digits : List Char) : Bool := digits.head?.any Char.isDigit
  let isCounted : Bool :=
    match rest.span (· ≠ '.') with
    | (whole, '.' :: after) =>
      let fraction := after.takeWhile fun c => c.isDigit || c = '_'
      let exponent := after.drop fraction.length
      match Text.split ':' whole with
      | [] => false
      | [[]] => starts fraction && isExponent exponent && rest.length = text.length
      | [part] => starts part && isDigits part && isExponent exponent
      | part :: more =>
        starts part && isDigits part && more.all isSixtieth && exponent.isEmpty
    | _ => false
  isCounted || [".inf", ".Inf", ".INF"].contains (String.ofList rest) ||
    [".nan", ".NaN", ".NAN"].contains (String.ofList text)

/-- The letter that may stand behind a zero before digits of a base. -/
def baseLetter (base : Nat) : Char :=
  if base = 2 then 'b' else if base = 8 then 'o' else 'x'

def digitIn? (base : Nat) (c : Char) : Option Nat :=
  let value? := (Text.digitValue? c).or (if Text.isHexDigit c then some (Text.hexValue c) else none)
  value?.filter (· < base)

/-- An integer in a base. -/
def integerIn (base : Nat) (text : List Char) : Except ScalarError Int :=
  if base = 10 then
    (Reading.int text).mapError fun
      | .notAnInteger => .notInteger 10 text
      | .tooManyDigits count => .tooManyDigits count
  else
    let (negative, rest) := Reading.sign (Reading.trim text)
    let digits :=
      match rest with
      | '0' :: letter :: more => if letter.toLower = baseLetter base then more else rest
      | _ => rest
    let add (n : Nat) (c : Char) : Option Nat := (digitIn? base c).map (base * n + ·)
    match if digits.isEmpty then none else digits.foldlM add 0 with
    | some n => .ok (if negative then -(n : Int) else n)
    | none => .error (.notInteger base text)

/-- The integer that a text stands for. -/
def integerOf (text : List Char) : Except ScalarError Int := do
  let (negative, rest) := Reading.sign (text.filter (· ≠ '_'))
  let n ←
    match rest with
    | [] => throw .empty
    | ['0'] => pure 0
    | '0' :: 'b' :: digits => integerIn 2 digits
    | '0' :: 'x' :: digits => integerIn 16 digits
    | '0' :: _ => integerIn 8 rest
    | _ => do
      let parts ← (Text.split ':' rest).mapM (integerIn 10)
      pure (parts.foldl (60 * · + ·) 0)
  return if negative then -n else n

def plainDouble (text : List Char) : Except ScalarError Float :=
  match Reading.double? text with
  | some x => .ok x
  | none => .error (.notDouble text)

/-- Add up parts from the last to the first, each times a power of sixty. -/
def sixties : Nat → Float → List Float → Except ScalarError Float
  | _, total, [] => .ok total
  | power, total, x :: more =>
    let scale := Dyadic.ofRatio false power 1
    if scale.isInf then .error .tooLarge else sixties (60 * power) (total + x * scale) more

/-- The double that a text stands for. -/
def doubleOf (text : List Char) : Except ScalarError Float := do
  let (negative, rest) := Reading.sign (Text.lowerAll (text.filter (· ≠ '_')))
  let x ←
    if text.all (· = '_') then throw .empty
    else if rest = ".inf".toList then pure (Dyadic.ofRatio false (Nat.pow 2 1024) 1)
    else if rest = ".nan".toList then pure (0.0 / 0.0)
    else if rest.contains ':' then do
      let parts ← (Text.split ':' rest).mapM plainDouble
      sixties 1 0.0 parts.reverse
    else plainDouble rest
  return if negative then -x else x

end Triplet.Yaml
