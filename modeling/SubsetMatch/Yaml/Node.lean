import SubsetMatch.Yaml.Token

/-!
# Nodes of YAML documents

A document is a tree of scalars, sequences and mappings. A node may bear an anchor, by which aliases
elsewhere in the document stand for it, and a tag.
-/

namespace SubsetMatch.Yaml

/-- The number of an anchor and the full name of a tag, if there are any. -/
structure Label where
  anchor : Option Nat
  tag : Option String
deriving DecidableEq, Repr

/-- A node of a document. -/
inductive Node
  | repeated (anchor : Nat)
  | scalar (label : Label) (isPlain : Bool) (text : String)
  | sequence (label : Label) (items : List Node)
  | mapping (label : Label) (entries : List (Node × Node))
deriving Repr

namespace Node

mutual
/-- The number of beginnings and ends of collections, scalars and aliases in a node. -/
def events : Node → Nat
  | repeated _ | scalar .. => 1
  | sequence _ items => eventsOfItems items + 2
  | mapping _ entries => eventsOfEntries entries + 2

/-- The number of events in some nodes. -/
def eventsOfItems : List Node → Nat
  | [] => 0
  | n :: items => n.events + eventsOfItems items

/-- The number of events in some entries. -/
def eventsOfEntries : List (Node × Node) → Nat
  | [] => 0
  | (k, v) :: entries => k.events + v.events + eventsOfEntries entries
end

/-- A node under its number, if it has one. -/
def numbered (label : Label) (n : Node) : List (Nat × Node) :=
  match label.anchor with
  | none => []
  | some a => [(a, n)]

mutual
/-- The nodes with an anchor, in the order in which they begin. -/
def anchored : Node → List (Nat × Node)
  | repeated _ => []
  | scalar label isPlain text => numbered label (scalar label isPlain text)
  | sequence label items => numbered label (sequence label items) ++ anchoredItems items
  | mapping label entries => numbered label (mapping label entries) ++ anchoredEntries entries

/-- The anchored nodes among some nodes. -/
def anchoredItems : List Node → List (Nat × Node)
  | [] => []
  | n :: items => n.anchored ++ anchoredItems items

/-- The anchored nodes among some entries. -/
def anchoredEntries : List (Node × Node) → List (Nat × Node)
  | [] => []
  | (k, v) :: entries => k.anchored ++ v.anchored ++ anchoredEntries entries
end

end Node

end SubsetMatch.Yaml
