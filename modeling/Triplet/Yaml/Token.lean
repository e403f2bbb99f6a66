/-! # YAML tokens

What the grammar of documents is made of.
-/

namespace Triplet.Yaml

inductive Directive where
  | version (major : Nat)
  /-- A handle for tags and what it stands for. -/
  | handle (name expansion : List Char)
  | other

inductive Token where
  | directive (d : Directive)
  | documentStart
  | documentEnd
  | streamEnd
  | blockList
  | blockTable
  | blockEnd
  | openBracket
  | closeBracket
  | openBrace
  | closeBrace
  | dash
  | comma
  | key
  | colon
  | reference (name : List Char)
  | anchor (name : List Char)
  | tag (handle? : Option (List Char)) (suffix : List Char)
  /-- A text, whether it is plain, and whether it is Unicode. -/
  | scalar (text : List Char) (isPlain isUnicode : Bool)

end Triplet.Yaml
