import Triplet.Console.Emoji
import Triplet.Console.Parameters
import Triplet.Console.Style
import Triplet.Fault

/-! # Markup

Tags in brackets set the style of a text and are not printed. A closing tag names the style that it
ends, or nothing for the last one; a backslash before a bracket makes it a plain character.
-/

namespace Triplet.Console

inductive MarkupError where
  /-- A closing tag that matches no open one. -/
  | unmatched (tag : List Char)
  /-- Parameters of an action that cannot be read. -/
  | parameters (text : List Char)
  /-- The name of a style with a color that has a part which is no number. -/
  | color (e : ColorError)
  deriving DecidableEq, Repr

def MarkupError.message : MarkupError → String
  | unmatched tag => "closing tag '[" ++ String.ofList tag ++ "]' doesn't match any open tag"
  | parameters text => "error parsing " ++ Text.quote (String.ofList text)
  | color e => (Fault.notAnInteger (String.ofList e.text)).message?.getD ""

/-- The characters that a tag begins with. -/
def beginsTag (c : Char) : Bool := ('a' ≤ c && c ≤ 'z') || c = '#' || c = '/' || c = '@'

/-- The inside of a tag up to its closing bracket, and what follows. -/
def tagEnd? : List Char → Option (List Char × List Char)
  | [] => none
  | c :: rest =>
    if c = ']' then some ([], rest)
    else if c = '[' then none
    else (tagEnd? rest).map fun (inside, rest) => (c :: inside, rest)

/-- Read a tag after its opening bracket. -/
def tag? : List Char → Option (List Char × List Char)
  | [] => none
  | c :: rest =>
    if beginsTag c then (tagEnd? rest).map fun (inside, rest) => (c :: inside, rest) else none

inductive Piece where
  | plain (text : List Char)
  | tag (inside : List Char)
  deriving DecidableEq, Repr

/-- The text that was passed over, as a piece if there is any. -/
def passed (text : List Char) : List Piece := if text.isEmpty then [] else [.plain text.reverse]

/-- Cut a text into plain pieces and tags. Of the backslashes before a tag each pair stands for one,
and an odd one makes the tag plain. -/
def pieces (before : List Char) : Nat → List Char → List Piece
  | 0, _ => passed before
  | _, [] => passed before
  | n + 1, c :: rest =>
    if c = '\\' || c = '[' then
      let slashes := ((c :: rest).takeWhile (· = '\\')).length
      let after := (c :: rest).drop slashes
      match after with
      | '[' :: inner =>
        match tag? inner with
        | some (inside, following) =>
          let kept := List.replicate (slashes / 2) '\\'
          passed before ++ (if kept.isEmpty then [] else [.plain kept]) ++
            (if slashes % 2 = 1 then .plain ('[' :: inside ++ [']']) else .tag inside) ::
            pieces [] n following
        | none => pieces ('[' :: (List.replicate slashes '\\' ++ before)) n inner
      | _ => pieces (List.replicate slashes '\\' ++ before) n after
    else pieces (c :: before) n rest

/-- A backslash before a bracket is dropped. -/
def unescape : List Char → List Char
  | '\\' :: '[' :: rest => '[' :: unescape rest
  | c :: rest => c :: unescape rest
  | [] => []

/-- A tag that is open: the normal form of its name and what follows an equals sign. -/
structure OpenTag where
  name : List Char
  parameters : List Char
  deriving DecidableEq, Repr

/-- Take the last open tag of a name off the list, the last opened first. -/
def close? (name : List Char) : List OpenTag → Option (OpenTag × List OpenTag)
  | [] => none
  | tag :: rest =>
    if tag.name = name then some (tag, rest)
    else (close? name rest).map fun (found, rest) => (found, tag :: rest)

/-- The tags that are open after one is closed. The name may be missing. -/
def closeTag (inside closing : List Char) (openTags : List OpenTag) :
    Except MarkupError (List OpenTag) := do
  let name := Text.trim closing
  let found? ←
    match name, openTags with
    | [], [] => pure none
    | [], tag :: rest => pure (some (tag, rest))
    | _, _ => do pure (close? (← (styleName name).mapError .color) openTags)
  match found? with
  | none => throw (.unmatched inside)
  | some (tag, rest) =>
    if tag.name.head? = some '@' && !areReadable tag.parameters then
      throw (.parameters tag.parameters)
    return rest

/-- Print pieces below the tags that are open. -/
def print (openTags : List OpenTag) : List Piece → Except MarkupError (List Char)
  | [] => .ok []
  | .plain text :: rest => do return replaceEmoji (unescape text) ++ (← print openTags rest)
  | .tag inside :: rest => do
    let name := inside.takeWhile (· ≠ '=')
    match name with
    | '/' :: closing => print (← closeTag inside closing openTags) rest
    | _ =>
      let style ← (styleName name).mapError .color
      print (⟨style, inside.drop (name.length + 1)⟩ :: openTags) rest

/-- What is printed for a text with markup. -/
def render (markup : List Char) : Except MarkupError (List Char) :=
  if markup.contains '[' then print [] (pieces [] markup.length markup)
  else .ok (replaceEmoji markup)

/-- Write a text so that its brackets are printed as they are. -/
def escape (text : List Char) : List Char :=
  let body := go text.length text
  match text.reverse with
  | '\\' :: '\\' :: _ => body
  | '\\' :: _ => body ++ ['\\']
  | _ => body
where
  go : Nat → List Char → List Char
    | 0, text => text
    | _, [] => []
    | n + 1, c :: rest =>
      if c = '\\' || c = '[' then
        let slashes := (c :: rest).takeWhile (· = '\\')
        match (c :: rest).drop slashes.length with
        | '[' :: inner =>
          match tag? inner with
          | some (inside, following) =>
            slashes ++ slashes ++ ('\\' :: '[' :: inside ++ [']']) ++ go n following
          | none => slashes ++ '[' :: go n inner
        | after => slashes ++ go n after
      else c :: go n rest

end Triplet.Console
