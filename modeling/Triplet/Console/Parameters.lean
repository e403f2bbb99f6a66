import Triplet.Number.Reading
import Triplet.Text.Digit
import Triplet.Text.Letter

/-! # Parameters of tags

A tag that names an action may have parameters: the name of a function, values in round brackets,
or both. Values are numbers, texts between quotes, tuples, sets and tables of values. Here it is
only said whether parameters can be read.
-/

namespace Triplet.Console

/-- What must be known of a value. -/
inductive Literal where
  | real
  | imaginary
  /-- Texts and bytes, which can be joined to others of their kind. -/
  | letters
  | bytes
  /-- Other values that can be members of a set. -/
  | member
  /-- Sets and tables. -/
  | collection
  deriving DecidableEq, Repr

namespace Literal

def isNumber (v : Literal) : Bool := v = real || v = imaginary

/-- A value and what follows it. -/
abbrev Read := Option (Literal × List Char)

/-- Pass blanks and comments; inside brackets also line breaks. -/
def skip (isInside : Bool) : Nat → List Char → List Char
  | 0, text => text
  | n + 1, c :: rest =>
    if c = ' ' || c = '\t' || c.toNat = 12 || (isInside && c = '\n') then skip isInside n rest
    else if c = '#' then skip isInside n (rest.dropWhile (· ≠ '\n'))
    else c :: rest
  | _, [] => []

/-- Read digits with single underscores between them; gives how many there are. -/
def digits (p : Char → Bool) (count : Nat) : List Char → Nat × List Char
  | [] => (count, [])
  | c :: rest =>
    if p c then digits p (count + 1) rest
    else
      match c, rest with
      | '_', d :: more =>
        if 0 < count && p d then digits p (count + 1) more else (count, c :: rest)
      | _, _ => (count, c :: rest)

/-- Read an exponent, if there is one. -/
def exponent (text : List Char) : Bool × List Char :=
  match text with
  | e :: rest =>
    if e = 'e' || e = 'E' then
      let signed := match rest with
        | '+' :: more | '-' :: more => more
        | _ => rest
      match digits Char.isDigit 0 signed with
      | (0, _) => (false, text)
      | (_, rest) => (true, rest)
    else (false, text)
  | [] => (false, [])

/-- Read digits after a zero and a letter, where an underscore may come first. -/
def based? (p : Char → Bool) (text : List Char) : Read :=
  let text := if text.head? = some '_' then text.drop 1 else text
  match digits p 0 text with
  | (0, _) => none
  | (_, rest) => some (real, rest)

/-- Read a decimal number. A whole number does not begin with a zero, unless it is zero. -/
def decimal? (text : List Char) : Read :=
  let (count, rest) := digits Char.isDigit 0 text
  let whole := text.take (text.length - rest.length)
  let (places, hasPoint, rest) :=
    match rest with
    | '.' :: after =>
      let (places, rest) := digits Char.isDigit 0 after
      (places, true, rest)
    | _ => (0, false, rest)
  if count + places = 0 then none
  else
    let (hasExponent, rest) := exponent rest
    match rest with
    | c :: more =>
      if c = 'j' || c = 'J' then some (imaginary, more)
      else if hasPoint || hasExponent || isWhole whole count then some (real, rest)
      else none
    | [] => if hasPoint || hasExponent || isWhole whole count then some (real, []) else none
where
  isWhole (whole : List Char) (count : Nat) : Bool :=
    count ≤ Reading.digitLimit &&
      (whole.head? ≠ some '0' || whole.all fun c => c = '0' || c = '_')

def number? (text : List Char) : Read :=
  match text with
  | '0' :: letter :: rest =>
    match letter.toLower with
    | 'x' => based? Text.isHexDigit rest
    | 'o' => based? (fun c => '0' ≤ c && c ≤ '7') rest
    | 'b' => based? (fun c => c = '0' || c = '1') rest
    | _ => decimal? text
  | _ => decimal? text

/-- How a text between quotes is written. -/
structure Quotes where
  quote : Char
  isTriple : Bool
  isRaw : Bool
  isBytes : Bool

/-- How many hexadecimal digits must follow a letter after a backslash. -/
def Quotes.escapeLength (q : Quotes) (letter : Char) : Nat :=
  if letter = 'x' then 2
  else if q.isBytes then 0
  else if letter = 'u' then 4
  else if letter = 'U' then 8
  else 0

/-- Pass a text up to its closing quotes. -/
def Quotes.close? (q : Quotes) : Nat → List Char → Option (List Char)
  | 0, _ => none
  | _, [] => none
  | n + 1, c :: rest =>
    if c = q.quote && !q.isTriple then some rest
    else if c = q.quote && rest.take 2 = [q.quote, q.quote] then some (rest.drop 2)
    else if (c = '\n' && !q.isTriple) || c.toNat = 0 || (q.isBytes && 128 ≤ c.toNat) then none
    else if c = '\\' then
      match rest with
      | [] => none
      | e :: more =>
        let count := if q.isRaw then 0 else q.escapeLength e
        let digits := (more.take count).takeWhile Text.isHexDigit
        if digits.length < count || 0x110000 ≤ Text.hexNumber digits then none
        else if e = 'N' && !q.isRaw && !q.isBytes then none
        else if q.isBytes && 128 ≤ e.toNat then none
        else q.close? n (more.drop count)
    else q.close? n rest

/-- Read one text between quotes, with letters before it that say how it is written. -/
def quoted? (text : List Char) : Read :=
  let letters := text.takeWhile Char.isAlpha
  let rest := text.drop letters.length
  let kind := String.ofList (letters.map Char.toLower)
  if kind ∉ ["", "u", "r", "b", "br", "rb"] then none
  else
    match rest with
    | c :: more =>
      if c = '"' || c = '\'' then
        let isTriple := more.take 2 = [c, c]
        let has (letter : Char) : Bool := letters.any (·.toLower = letter)
        let q : Quotes := ⟨c, isTriple, has 'r', has 'b'⟩
        let body := if isTriple then more.drop 2 else more
        (q.close? (body.length + 1) body).map fun rest =>
          (if q.isBytes then Literal.bytes else Literal.letters, rest)
      else none
    | [] => none

/-- Read texts one behind another, which are joined. -/
def joined? (isInside : Bool) : Nat → List Char → Read
  | 0, _ => none
  | n + 1, text => do
    let (v, rest) ← quoted? text
    match joined? isInside n (skip isInside rest.length rest) with
    | some (w, rest) => if v = w then some (v, rest) else none
    | none => some (v, rest)

/-- Read a word that is a value. -/
def word? (text : List Char) : Read :=
  let word := text.takeWhile fun c => c.isAlphanum || c = '_'
  let rest := text.drop word.length
  if ["None", "True", "False"].contains (String.ofList word) then some (member, rest)
  else if word = "set".toList then
    match skip false rest.length rest with
    | '(' :: rest =>
      match skip true rest.length rest with
      | ')' :: rest => some (collection, rest)
      | _ => none
    | _ => none
  else if word.isEmpty && text.take 3 = ['.', '.', '.'] then some (member, text.drop 3)
  else none

/-- A tuple is a member of sets if all its parts are. -/
def tuple (parts : List Literal) : Literal :=
  if parts.contains collection then collection else member

mutual

/-- Read a value that is no sum and has no sign. -/
def atom? : Nat → Bool → List Char → Read
  | 0, _, _ => none
  | n + 1, isInside, text =>
    match text with
    | '(' :: rest => bracket? n (skip true rest.length rest)
    | '\x7b' :: rest => brace? n (skip true rest.length rest)
    | _ =>
      (joined? isInside text.length text).orElse fun _ =>
        (word? text).orElse fun _ => number? text

/-- Read a value. A sign stands before a number only, and only an imaginary number is added, to a
real one. -/
def value? : Nat → Bool → List Char → Read
  | 0, _, _ => none
  | n + 1, isInside, text => do
    let pass (text : List Char) : List Char := skip isInside text.length text
    let isSigned := text.head? = some '-' || text.head? = some '+'
    let (v, rest) ← atom? n isInside (if isSigned then pass (text.drop 1) else text)
    if isSigned && !v.isNumber then none
    else
      match pass rest with
      | c :: more =>
        if c = '+' || c = '-' then do
          let (w, rest) ← atom? n isInside (pass more)
          if v = real && w = imaginary then some (member, rest) else none
        else some (v, rest)
      | [] => some (v, rest)

/-- Read values with commas between them up to a closing sign, from behind the first. -/
def more? : Nat → Char → List Literal → List Char → Option (List Literal × List Char)
  | 0, _, _, _ => none
  | n + 1, closing, done, text =>
    match skip true text.length text with
    | ',' :: rest =>
      let rest := skip true rest.length rest
      if rest.head? = some closing then some (done, rest.drop 1)
      else do
        let (v, rest) ← value? n true rest
        more? n closing (v :: done) rest
    | c :: rest => if c = closing then some (done, rest) else none
    | [] => none

/-- Read a value in brackets, or a tuple. -/
def bracket? : Nat → List Char → Read
  | 0, _ => none
  | n + 1, text =>
    match text with
    | ')' :: rest => some (member, rest)
    | _ => do
      let (v, rest) ← value? n true text
      match skip true rest.length rest with
      | ')' :: rest => some (v, rest)
      | rest =>
        let (parts, rest) ← more? n ')' [v] rest
        some (tuple parts, rest)

/-- Read a set or a table. Members and keys are no collections. -/
def brace? : Nat → List Char → Read
  | 0, _ => none
  | n + 1, text =>
    match text with
    | '\x7d' :: rest => some (collection, rest)
    | _ => do
      let (v, rest) ← value? n true text
      if v = collection then none
      else
        match skip true rest.length rest with
        | ':' :: rest =>
          let (_, rest) ← value? n true (skip true rest.length rest)
          entries? n rest
        | rest =>
          let (parts, rest) ← more? n '\x7d' [v] rest
          if parts.contains collection then none else some (collection, rest)

/-- Read the further entries of a table. -/
def entries? : Nat → List Char → Read
  | 0, _ => none
  | n + 1, text =>
    match skip true text.length text with
    | '\x7d' :: rest => some (collection, rest)
    | ',' :: rest =>
      match skip true rest.length rest with
      | '\x7d' :: rest => some (collection, rest)
      | rest => do
        let (v, rest) ← value? n true rest
        match skip true rest.length rest with
        | ':' :: rest =>
          let (_, rest) ← value? n true (skip true rest.length rest)
          if v = collection then none else entries? n rest
        | _ => none
    | _ => none

end

/-- Whether values with commas between them, behind the first, end the text. -/
def endsTuple : Nat → List Char → Bool
  | 0, _ => false
  | n + 1, text =>
    match skip false text.length text with
    | [] => true
    | ',' :: rest =>
      match skip false rest.length rest with
      | [] => true
      | rest =>
        match value? (4 * rest.length + 4) false rest with
        | some (_, rest) => endsTuple n rest
        | none => false
    | _ => false

/-- Whether a text is a value, or values with commas between them. -/
def isReadable (text : List Char) : Bool :=
  match value? (4 * text.length + 4) false (skip false text.length text) with
  | some (_, rest) => endsTuple (rest.length + 1) rest
  | none => false

end Literal

/-- The letters of the names of functions. -/
def isNameLetter (c : Char) : Bool := Text.isLetter c || c = '_' || c = '.'

/-- The values of parameters: what stands in brackets behind the name of a function, nothing behind
a name alone, and else all. -/
def parameterValues (parameters : List Char) : List Char :=
  match parameters.dropWhile isNameLetter with
  | [] => ['(', ')']
  | rest@('(' :: _) =>
    if rest.getLast? = some ')' && !rest.contains '\n' then rest else parameters
  | _ => parameters

/-- Whether parameters can be read. -/
def areReadable (parameters : List Char) : Bool :=
  parameters.isEmpty || Literal.isReadable (parameterValues (Text.trim parameters))

end Triplet.Console
