import Triplet.Yaml.Lexer
import Triplet.Yaml.Scalar

/-! # Reading YAML nodes

Nodes from tokens: blocks, lists between brackets, tables between braces and scalars. What is
missing is read as an empty scalar. Names are known from the node that has them on, so a node can
refer to one that it is part of.
-/

namespace Triplet.Yaml

structure Assembler where
  lexer : Lexer
  /-- What the handles of tags stand for. -/
  handles : List (List Char × List Char)
  names : List (List Char)
  named : List (List Char × Node)

def defaultHandles : List (List Char × List Char) :=
  [(['!'], ['!']), (['!', '!'], "tag:yaml.org,2002:".toList)]

def Assembler.ofText (text : List Char) : Assembler := ⟨.ofText text, defaultHandles, [], []⟩

/-- Steps that read nodes. -/
abbrev Assembly := StateT Assembler (Except Error)

namespace Assembly

def lex {α : Type} (step : Lexing α) : Assembly α := fun s => do
  let (a, lexer) ← step.run s.lexer
  return (a, { s with lexer := lexer })

def peek : Assembly Token := lex Lexing.peek

def skip : Assembly Unit := lex Lexing.skip

/-- The name and the tag before a node. -/
structure Properties where
  name? : Option (List Char)
  tag? : Option (List Char)

/-- The tag with what its handle stands for. -/
def expand (handle? : Option (List Char)) (suffix : List Char) : Assembly (List Char) := do
  match handle? with
  | none => return suffix
  | some handle =>
    match (← get).handles.lookup handle with
    | some expansion => return expansion ++ suffix
    | none => throw .misplaced

/-- Read the name and the tag of a node, in either order. -/
def properties : Assembly Properties := do
  match ← peek with
  | .anchor name =>
    skip
    match ← peek with
    | .tag handle? suffix =>
      skip
      return ⟨some name, some (← expand handle? suffix)⟩
    | _ => return ⟨some name, none⟩
  | .tag handle? suffix =>
    skip
    match ← peek with
    | .anchor name =>
      skip
      return ⟨some name, some (← expand handle? suffix)⟩
    | _ => return ⟨none, some (← expand handle? suffix)⟩
  | _ => return ⟨none, none⟩

namespace Properties

/-- The tag, unless it leaves the kind open. -/
def kindTag? (p : Properties) : Option (List Char) := p.tag?.filter (· ≠ ['!'])

def kind (p : Properties) (otherwise : Kind) : Kind := (p.kindTag?.map Kind.ofTag).getD otherwise

def isEmpty (p : Properties) : Bool := p.name?.isNone && p.tag?.isNone

/-- The kind of a scalar: a quoted one without a tag is a text. -/
def scalarKind (p : Properties) (isPlain : Bool) (text : List Char) : Kind :=
  p.kind (if isPlain || p.tag?.isSome then Kind.ofText text else .text)

end Properties

/-- Make the name of a node known; no two nodes have the same. -/
def declare (p : Properties) : Assembly Unit :=
  match p.name? with
  | none => return
  | some name => do
    if (← get).names.contains name then throw .repeatedAnchor
    modify fun s => { s with names := name :: s.names }

/-- Keep a node under its name. -/
def keep (p : Properties) (node : Node) : Assembly Node := do
  match p.name? with
  | none => return node
  | some name =>
    modify fun s => { s with named := (name, node) :: s.named }
    return node

def emptyNode : Node := .scalar .null [] true

/-- Whether the next token is one of those where a node is missing. -/
def isMissing (ends : Token → Bool) : Assembly Bool := return ends (← peek)

def endsItem : Token → Bool
  | .dash | .blockEnd => true
  | _ => false

def endsFlushItem : Token → Bool
  | .dash | .key | .colon | .blockEnd => true
  | _ => false

def endsBlockPart : Token → Bool
  | .key | .colon | .blockEnd => true
  | _ => false

def endsBracketKey : Token → Bool
  | .colon | .comma | .closeBracket => true
  | _ => false

def endsBracketValue : Token → Bool
  | .comma | .closeBracket => true
  | _ => false

def endsBraceKey : Token → Bool
  | .colon | .comma | .closeBrace => true
  | _ => false

def endsBraceValue : Token → Bool
  | .comma | .closeBrace => true
  | _ => false

mutual

/-- Read a node. Blocks are read outside of brackets only; a list that is not indented only as the
key or value of a block. -/
def node : Nat → Bool → Bool → Assembly Node
  | 0, _, _ => throw .misplaced
  | n + 1, isBlock, mayBeFlush => do
    match ← peek with
    | .reference name =>
      skip
      if (← get).names.contains name then return .reference name else throw .unknownAnchor
    | _ =>
      let p ← properties
      match ← peek with
      | .scalar text isPlain isUnicode =>
        skip
        declare p
        keep p (.scalar (p.scalarKind isPlain text) text isUnicode)
      | .openBracket =>
        skip
        declare p
        keep p (.list (p.kind .list) (← bracketItems n true []))
      | .openBrace =>
        skip
        declare p
        keep p (.table (p.kind .table) (← braceEntries n true []))
      | token =>
        match token, isBlock, mayBeFlush with
        | .dash, _, true =>
          declare p
          keep p (.list (p.kind .list) (← flushItems n []))
        | .blockList, true, _ =>
          skip
          declare p
          keep p (.list (p.kind .list) (← items n []))
        | .blockTable, true, _ =>
          skip
          declare p
          keep p (.table (p.kind .table) (← entries n []))
        | _, _, _ =>
          if p.isEmpty then throw .misplaced
          declare p
          keep p (.scalar (p.scalarKind true []) [] true)

/-- Read a node, or none where one of certain tokens follows. -/
def part : Nat → (Token → Bool) → Bool → Bool → Assembly Node
  | 0, _, _, _ => throw .misplaced
  | n + 1, ends, isBlock, mayBeFlush => do
    if ← isMissing ends then return emptyNode else node n isBlock mayBeFlush

/-- Read the items of a list up to the end of its block. -/
def items : Nat → List Node → Assembly (List Node)
  | 0, _ => throw .misplaced
  | n + 1, done => do
    match ← peek with
    | .dash =>
      skip
      items n ((← part n endsItem true false) :: done)
    | .blockEnd =>
      skip
      return done.reverse
    | _ => throw .misplaced

/-- Read the items of a list that is not indented. -/
def flushItems : Nat → List Node → Assembly (List Node)
  | 0, _ => throw .misplaced
  | n + 1, done => do
    match ← peek with
    | .dash =>
      skip
      flushItems n ((← part n endsFlushItem true false) :: done)
    | _ => return done.reverse

/-- Read the value of an entry, which may have none. -/
def entryValue : Nat → (Token → Bool) → Bool → Assembly Node
  | 0, _, _ => throw .misplaced
  | n + 1, ends, isBlock => do
    match ← peek with
    | .colon =>
      skip
      part n ends isBlock isBlock
    | _ => return emptyNode

/-- Read the entries of a table up to the end of its block. -/
def entries : Nat → List (Node × Node) → Assembly (List (Node × Node))
  | 0, _ => throw .misplaced
  | n + 1, done => do
    match ← peek with
    | .key =>
      skip
      let key ← part n endsBlockPart true true
      let value ← entryValue n endsBlockPart true
      entries n ((key, value) :: done)
    | .blockEnd =>
      skip
      return done.reverse
    | _ => throw .misplaced

/-- Read the items of a list between brackets. An entry is a table of its own. -/
def bracketItems : Nat → Bool → List Node → Assembly (List Node)
  | 0, _, _ => throw .misplaced
  | n + 1, isFirst, done => do
    if let .closeBracket ← peek then
      skip
      return done.reverse
    if !isFirst then
      match ← peek with
      | .comma => skip
      | _ => throw .misplaced
    match ← peek with
    | .closeBracket =>
      skip
      return done.reverse
    | .key =>
      skip
      let key ← part n endsBracketKey false false
      let value ← entryValue n endsBracketValue false
      bracketItems n false (.table .table [(key, value)] :: done)
    | _ => bracketItems n false ((← node n false false) :: done)

/-- Read the entries of a table between braces. A node that is no key has no value. -/
def braceEntries : Nat → Bool → List (Node × Node) → Assembly (List (Node × Node))
  | 0, _, _ => throw .misplaced
  | n + 1, isFirst, done => do
    if let .closeBrace ← peek then
      skip
      return done.reverse
    if !isFirst then
      match ← peek with
      | .comma => skip
      | _ => throw .misplaced
    match ← peek with
    | .closeBrace =>
      skip
      return done.reverse
    | .key =>
      skip
      let key ← part n endsBraceKey false false
      let value ← entryValue n endsBraceValue false
      braceEntries n false ((key, value) :: done)
    | _ =>
      let key ← node n false false
      braceEntries n false ((key, emptyNode) :: done)

end

/-- Read the directives of a document. There is one version at most, and it begins with one; no two
directives are about one handle. -/
def directives : Nat → Bool → List (List Char × List Char) → Assembly Unit
  | 0, _, _ => throw .misplaced
  | n + 1, hasVersion, handles => do
    match ← peek with
    | .directive (.version major) =>
      skip
      if hasVersion || major ≠ 1 then throw .misplaced
      directives n true handles
    | .directive (.handle name expansion) =>
      skip
      if (handles.lookup name).isSome then throw .misplaced
      directives n hasVersion ((name, expansion) :: handles)
    | .directive .other =>
      skip
      directives n hasVersion handles
    | _ => modify fun s => { s with handles := handles ++ defaultHandles }

/-- Pass marks that end documents. -/
def skipEnds : Nat → Assembly Unit
  | 0 => return
  | n + 1 => do
    if let .documentEnd ← peek then
      skip
      skipEnds n

/-- Read what begins a document; says whether there is one. -/
def start (fuel : Nat) : Assembly Bool := do
  skipEnds fuel
  match ← peek with
  | .streamEnd => return false
  | _ =>
    directives fuel false []
    match ← peek with
    | .documentStart =>
      skip
      return true
    | _ => throw .misplaced

def endsDocument : Token → Bool
  | .directive _ | .documentStart | .documentEnd | .streamEnd => true
  | _ => false

/-- Read the one document of a text, if there is any. -/
def document (fuel : Nat) : Assembly (Option Node) := do
  let root? ←
    match ← peek with
    | .directive _ | .documentStart | .streamEnd =>
      if ← start fuel then pure (some (← part fuel endsDocument true false)) else pure none
    | _ => pure (some (← node fuel true false))
  if root?.isSome then
    if ← start fuel then throw .secondDocument
  return root?

end Assembly

/-- Read a text as a graph of nodes; none stands in an empty text. -/
def Graph.ofText (text : List Char) : Except Error (Option Graph) := do
  let (root?, s) ← StateT.run (Assembly.document (8 * text.length + 16)) (Assembler.ofText text)
  return root?.map fun root => ⟨root, s.named⟩

end Triplet.Yaml
