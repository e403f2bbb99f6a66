import Triplet.Yaml.Cursor

/-! # Plain YAML scalars

Words without quotes, with single spaces for line breaks between them.
-/

namespace Triplet.Yaml

/-- Whether a plain scalar ends here; between brackets more characters end it. -/
def endsPlain (flow : Bool) (text : List Char) : Bool :=
  match text with
  | [] => true
  | c :: rest =>
    isGap c || (c = ':' && rest.head?.all fun d => isGap d || (flow && isBracket d)) ||
      (flow && (isBracket c || c = '?'))

/-- The word of a plain scalar that begins here. -/
def plainWord (flow : Bool) : List Char → List Char
  | [] => []
  | c :: rest => if endsPlain flow (c :: rest) then [] else c :: plainWord flow rest

/-- Pass spaces and line breaks, up to a mark between documents. Gives the breaks and whether there
was no mark. -/
def plainBreaks : Nat → Cursor → List Char × Bool × Cursor
  | 0, c => ([], true, c)
  | n + 1, c =>
    if c.isAt ' ' then plainBreaks n c.next
    else
      match c.takeBreak with
      | ([], c) => ([], true, c)
      | (text, c) =>
        if c.isAnyMark then (text, false, c)
        else
          let (more, goesOn, c) := plainBreaks n c
          (text ++ more, goesOn, c)

/-- What stands between two words of a scalar. -/
structure PlainGap where
  /-- How it is read; empty where the scalar ends. -/
  text : List Char
  hasBreak : Bool
  cursor : Cursor

/-- How line breaks are read: a single newline as a space, of more the first is left out. -/
def foldBreaks (first more : List Char) : List Char :=
  if first ≠ ['\n'] then first ++ more
  else if more.isEmpty then [' ']
  else more

def plainGap (c : Cursor) : PlainGap :=
  let (spaces, c) := c.takeWhile (· = ' ')
  match c.takeBreak with
  | ([], c) => ⟨spaces, false, c⟩
  | (first, c) =>
    if c.isAnyMark then ⟨[], true, c⟩
    else
      match plainBreaks c.rest.length c with
      | (more, true, c) => ⟨foldBreaks first more, true, c⟩
      | (_, false, c) => ⟨[], true, c⟩

/-- Read words until the scalar ends. Gives also whether a line break stood last. -/
def plainWords (flow : Bool) (indent : Int) : Nat → Bool → Cursor → List Char × Bool × Cursor
  | 0, hasBreak, c => ([], hasBreak, c)
  | n + 1, hasBreak, c =>
    let word := if c.isAt '#' then [] else plainWord flow c.rest
    if word.isEmpty then ([], hasBreak, c)
    else
      let gap := plainGap (c.forward word.length)
      let c := gap.cursor
      if gap.text.isEmpty || c.isAt '#' || (!flow && c.column < indent) then
        (word, gap.hasBreak, c)
      else
        let (more, hasBreak, c) := plainWords flow indent n gap.hasBreak c
        (if more.isEmpty then word else word ++ gap.text ++ more, hasBreak, c)

/-- Read a plain scalar whose further lines are indented by `indent` or more. -/
def plain (flow : Bool) (indent : Int) (c : Cursor) : List Char × Bool × Cursor :=
  plainWords flow indent c.rest.length false c

end Triplet.Yaml
