import Specimen.Yaml.Token

/-!
# Nodes

A document is a tree of nodes in which an alias stands for a node elsewhere in
the tree. What scalars mean is not decided here: a scalar is its text, with the
style and the tag that decide it.
-/

namespace Specimen.Yaml

/-- A node of a document. -/
inductive Node where
  | scalar (text : String) (style : Style) (tag : Option String)
  | sequence (items : List Node) (tag : Option String)
  | mapping (entries : List (Node × Node)) (tag : Option String)
  /-- The node with the given number among those that have anchors. -/
  | reference (number : Nat)
deriving Inhabited

namespace Node

/-- The scalar that stands where nothing is written. -/
def empty : Node := .scalar "" .plain none

mutual

/-- How many scalars and aliases there are and how many collections start or
end. -/
def size : Node → Nat
  | scalar _ _ _ => 1
  | reference _ => 1
  | sequence items _ => 2 + sizeItems items
  | mapping entries _ => 2 + sizeEntries entries

def sizeItems : List Node → Nat
  | [] => 0
  | item :: rest => size item + sizeItems rest

def sizeEntries : List (Node × Node) → Nat
  | [] => 0
  | (key, value) :: rest => size key + size value + sizeEntries rest

end

end Node

/-- A document. A text with nothing but comments holds one without a root. -/
structure Document where
  root : Option Node
  /-- The nodes that aliases stand for. -/
  anchored : List (Nat × Node)

namespace Document

/-- The node that a node stands for. -/
def resolve? (d : Document) : Node → Option Node
  | .reference number => d.anchored.lookup number
  | node => some node

end Document

end Specimen.Yaml
