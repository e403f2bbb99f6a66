import Triplet.Yaml.Grammar

/-! # What YAML nodes hold

Nodes are checked level by level, from the root on, and then read as data. A table can take over
the entries of others, which its own come before.
-/

namespace Triplet.Yaml

namespace Node

def hasKind (kind : Kind) : Node → Bool
  | scalar k _ _ | list k _ | table k _ => k = kind
  | reference _ => false

/-- A key that would hold the value of its table is a text. -/
def asKey : Node → Node
  | scalar .default text isUnicode => scalar .text text isUnicode
  | node => node

end Node

namespace Graph

variable (g : Graph)

/-- The entries of a table that are its own. -/
def ownEntries (entries : List (Node × Node)) : List (Node × Node) :=
  (entries.filter fun (key, _) => !(g.resolve key).hasKind .merge).map fun (key, value) =>
    ((g.resolve key).asKey, value)

/-- The entries of a table behind those that it takes over, of several tables from the last to the
first. A table that is being read gives its own entries only. -/
def allEntries : Nat → List (List Char) → List (Node × Node) →
    Except Error (List (Node × Node))
  | 0, _, entries => .ok (g.ownEntries entries)
  | n + 1, path, entries => do
    let taken (node : Node) : Except Error (List (Node × Node)) :=
      match node, g.resolve node with
      | .reference name, .table _ inner =>
        if path.contains name then .ok (g.ownEntries inner) else allEntries n (name :: path) inner
      | _, .table _ inner => allEntries n path inner
      | _, _ => .error .unfit
    let merges := (entries.filter fun (key, _) => (g.resolve key).hasKind .merge).map (·.2)
    let merged ← merges.mapM fun node =>
      match g.resolve node with
      | .list _ items => do
        let parts ← items.mapM taken
        return parts.reverse.flatten
      | _ => taken node
    return merged.flatten ++ g.ownEntries entries

/-- How many links from table to table are followed. -/
def linkLimit : Nat := 64

/-- The text of a scalar, or of the one that a table holds as its value. -/
def scalarText? : Nat → Node → Option (List Char × Bool)
  | 0, _ => none
  | n + 1, node =>
    match g.resolve node with
    | .scalar _ text isUnicode => some (text, isUnicode)
    | .table _ entries =>
      (entries.find? fun (key, _) => (g.resolve key).hasKind .default).bind fun (_, value) =>
        scalarText? n value
    | _ => none

/-- The value of a node that has no parts. -/
def scalarValue (kind : Kind) (node : Node) : Except Error Datum :=
  match g.scalarText? linkLimit node with
  | some (text, isUnicode) => kind.value text isUnicode
  | none => .error .unfit

def kindOf (node : Node) : Kind :=
  match g.resolve node with
  | .scalar kind _ _ | .list kind _ | .table kind _ => kind
  | .reference _ => .unknown

/-- Check a node; one with parts is left for later. -/
def checkNode (node : Node) : Except Error (List Node) := do
  let kind := g.kindOf node
  if kind.isCollection then return [node]
  let _ ← g.scalarValue kind node
  return []

/-- Check an entry, whose key must have no parts. -/
def checkEntry (entry : Node × Node) : Except Error (List Node) := do
  if !(← g.checkNode entry.1).isEmpty then throw .unfit
  g.checkNode entry.2

/-- Check the parts of a node. -/
def checkParts (node : Node) : Except Error (List Node) :=
  match g.resolve node with
  | .list .list items => do return (← items.mapM g.checkNode).flatten
  | .list .orderedTable items | .list .pairs items => do
    let parts ← items.mapM fun item =>
      match g.resolve item with
      | .table _ [(key, value)] => do return (← g.checkNode key) ++ (← g.checkNode value)
      | _ => throw .unfit
    return parts.flatten
  | .table .table entries | .table .members entries => do
    let entries ← g.allEntries linkLimit [] entries
    return (← entries.mapM g.checkEntry).flatten
  | _ => throw .unfit

/-- Drop references to nodes that have been checked. -/
def unseen : List (List Char) → List Node → List (List Char) × List Node
  | seen, [] => (seen, [])
  | seen, .reference name :: rest =>
    if seen.contains name then unseen seen rest
    else
      let (seen, rest) := unseen (name :: seen) rest
      (seen, .reference name :: rest)
  | seen, node :: rest =>
    let (seen, rest) := unseen seen rest
    (seen, node :: rest)

/-- Check the parts of the nodes of a level, and then the levels below. -/
def checkLevels : Nat → List (List Char) → List Node → Except Error Unit
  | 0, _, _ => .ok ()
  | n + 1, seen, level => do
    let (seen, level) := unseen seen level
    if !level.isEmpty then
      checkLevels n seen (← level.mapM g.checkParts).flatten

/-- What a node holds, as deep as `depth` says. -/
def datum : Nat → Node → Datum
  | 0, _ => .other false
  | depth + 1, node =>
    match g.resolve node with
    | .list .list items => .list (items.map (datum depth))
    | .list .orderedTable items | .list .pairs items => .list (items.map fun _ => .other false)
    | .table .table entries =>
      let entries := (g.allEntries linkLimit [] entries).toOption.getD []
      .table (entries.map fun (key, value) => (datum depth key, datum depth value))
    | .table .members entries => .other entries.isEmpty
    | _ => (g.scalarValue (g.kindOf node) node).toOption.getD (.other false)

/-- Check a graph and read it as deep as `depth` says. A node of `size` characters has no more
levels. -/
def toDatum (size depth : Nat) : Except Error Datum := do
  g.checkLevels (size + 1) [] (← g.checkNode g.root)
  return g.datum depth g.root

end Graph

/-- The characters that a document may have. -/
def isPrintable (c : Char) : Bool :=
  let n := c.toNat
  n = 9 || n = 10 || n = 13 || (32 ≤ n && n ≤ 126) || n = 0x85 ||
    (0xA0 ≤ n && n ≠ 0xFFFE && n ≠ 0xFFFF)

/-- Read a text that holds one document or none, as deep as `depth` says. -/
def document (depth : Nat) (text : List Char) : Except Error Datum := do
  if !text.all isPrintable then throw .unprintable
  match ← Graph.ofText text with
  | none => return .null
  | some g => g.toDatum text.length depth

end Triplet.Yaml
