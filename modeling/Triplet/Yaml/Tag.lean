import Triplet.Text.Digit
import Triplet.Text.Utf8
import Triplet.Yaml.Cursor
import Triplet.Yaml.Token

/-! # YAML tags, names and directives

A tag says of what kind a node is. Handles abbreviate tags; directives at the head of a document
say what handles stand for.
-/

namespace Triplet.Yaml

def isTagLetter (c : Char) : Bool :=
  c.isAlphanum || "-;/?:@&=+$,_.!~*'()[]".toList.contains c

/-- The bytes that are written with percent signs. -/
def escapedBytes : Nat → Cursor → Except Error (List UInt8 × Cursor)
  | 0, c => .ok ([], c)
  | n + 1, c =>
    match c.rest with
    | '%' :: more => do
      let digits := (more.take 2).takeWhile Text.isHexDigit
      if digits.length < 2 then throw .unreadable
      let (bytes, c) ← escapedBytes n (c.forward 3)
      return ((Text.hexNumber digits).toUInt8 :: bytes, c)
    | _ => .ok ([], c)

def tagLetters : Nat → Cursor → Except Error (List Char × Cursor)
  | 0, c => .ok ([], c)
  | n + 1, c =>
    match c.takeWhile isTagLetter with
    | (text, c) =>
      if !c.isAt '%' then .ok (text, c)
      else do
        let (bytes, c) ← escapedBytes c.rest.length c
        let escaped ← (Text.decode bytes).mapError fun _ => Error.unreadable
        let (more, c) ← tagLetters n c
        return (text ++ escaped ++ more, c)

/-- What stands behind the handle of a tag. -/
def tagSuffix (c : Cursor) : Except Error (List Char × Cursor) := do
  let (text, c) ← tagLetters (c.rest.length + 1) c
  if text.isEmpty then throw .unreadable
  return (text, c)

/-- A handle: one mark, or a name between two. -/
def tagHandle (c : Cursor) : Except Error (List Char × Cursor) :=
  if !c.isAt '!' then .error .unreadable
  else if c.next.isAt ' ' then .ok (['!'], c.next)
  else
    let (name, c) := c.next.takeWhile isNameLetter
    if c.isAt '!' then .ok ('!' :: name ++ ['!'], c.next) else .error .unreadable

def tag (c : Cursor) : Except Error (Token × Cursor) := do
  let (token, c) ←
    if c.next.isAt '<' then do
      let (suffix, c) ← tagSuffix (c.forward 2)
      if !c.isAt '>' then throw .unreadable
      pure (Token.tag none suffix, c.next)
    else if c.isGapAt 1 then pure (Token.tag none ['!'], c.next)
    else do
      let word := c.next.rest.takeWhile fun d => !(d = ' ' || isBreak d)
      let (handle, c) ← if word.contains '!' then tagHandle c else pure (['!'], c.next)
      let (suffix, c) ← tagSuffix c
      pure (Token.tag (some handle) suffix, c)
  if !c.isWordEnd then throw .unreadable
  return (token, c)

/-- The characters that may stand right behind a name. -/
def endsName (c : Char) : Bool := isGap c || "?:,]\x7d%@".toList.contains c || c.toNat = 96

/-- The name of an anchor, from its mark on. -/
def anchorName (c : Cursor) : Except Error (List Char × Cursor) := do
  let (name, c) ← c.next.takeName
  if !c.peek?.all endsName then throw .unreadable
  return (name, c)

/-- A part of the number of a version. -/
def versionNumber (c : Cursor) : Except Error (Nat × Cursor) := do
  let (digits, c) := c.takeWhile Char.isDigit
  if digits.isEmpty then throw .unreadable
  if 4300 < digits.length then throw (.scalar (.tooManyDigits digits.length))
  return (digits.foldl (fun n d => 10 * n + (d.toNat - '0'.toNat)) 0, c)

def versionDirective (c : Cursor) : Except Error (Directive × Cursor) := do
  let (major, c) ← versionNumber c.skipSpaces
  if !c.isAt '.' then throw .unreadable
  let (_, c) ← versionNumber c.next
  if !c.isWordEnd then throw .unreadable
  return (.version major, c)

def handleDirective (c : Cursor) : Except Error (Directive × Cursor) := do
  let (name, c) ← tagHandle c.skipSpaces
  if !c.isAt ' ' then throw .unreadable
  let (expansion, c) ← tagSuffix c.skipSpaces
  if !c.isWordEnd then throw .unreadable
  return (.handle name expansion, c)

/-- Read a directive and pass its line. -/
def directive (c : Cursor) : Except Error (Directive × Cursor) := do
  let (name, c) ← c.next.takeName
  if !c.isWordEnd then throw .unreadable
  let (d, c) ←
    if name = "YAML".toList then versionDirective c
    else if name = "TAG".toList then handleDirective c
    else pure (Directive.other, c.skipWhile (!isBreak ·))
  return (d, ← c.endLine)

end Triplet.Yaml
