/-! # YAML nodes

A document is a tree of scalars, lists and tables, each of a kind. A node can stand for another one
that has a name.
-/

namespace Triplet.Yaml

/-- The kinds of values. -/
inductive Kind where
  | null
  | bool
  | int
  | double
  | bytes
  | moment
  | text
  | list
  | table
  /-- A list of entries with different keys. -/
  | orderedTable
  | pairs
  /-- A table whose values do not count. -/
  | members
  /-- The key under which a table takes over the entries of others. -/
  | merge
  /-- The key under which a table holds its value as a scalar. -/
  | default
  | unknown
  deriving DecidableEq, Repr

/-- The kind that a tag names. -/
def Kind.ofTag (tag : List Char) : Kind :=
  let names : List (String × Kind) := [
    ("null", null), ("bool", bool), ("int", int), ("float", double), ("binary", bytes),
    ("timestamp", moment), ("str", text), ("seq", list), ("map", table), ("omap", orderedTable),
    ("pairs", pairs), ("set", members), ("merge", merge), ("value", default)]
  let found? := names.find? fun (name, _) => tag = ("tag:yaml.org,2002:" ++ name).toList
  (found?.map (·.2)).getD unknown

/-- Whether values of a kind have parts. -/
def Kind.isCollection : Kind → Bool
  | list | table | orderedTable | pairs | members => true
  | _ => false

inductive Node where
  | scalar (kind : Kind) (text : List Char) (isUnicode : Bool)
  | list (kind : Kind) (items : List Node)
  | table (kind : Kind) (entries : List (Node × Node))
  | reference (name : List Char)

/-- A node and the nodes that have names. -/
structure Graph where
  root : Node
  named : List (List Char × Node)

/-- The node that a node stands for. -/
def Graph.resolve (g : Graph) : Node → Node
  | .reference name => (g.named.lookup name).getD (.scalar .unknown [] true)
  | node => node

end Triplet.Yaml
