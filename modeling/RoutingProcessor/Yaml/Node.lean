import RoutingProcessor.Yaml.Token

namespace RoutingProcessor.Yaml

-- A document as a tree. An alias names an anchor by its number. A broken node stands
-- where the document could not be read any further, so nothing behind it counts.
inductive Node where
  | scalar (text : String) (style : Style) (tag : Option String)
  | sequence (tag : Option String) (items : List Node)
  | mapping (tag : Option String) (entries : List (Node × Node))
  | anchored (number : Nat) (node : Node)
  | reference (number : Nat)
  | broken
deriving Inhabited

namespace Node

-- A scalar of which nothing is written.
def blank (tag : Option String) : Node := scalar "" .plain tag

mutual

-- Whether the node could be read to its end.
def isWhole : Node → Bool
  | scalar .. | reference _ => true
  | sequence _ items => areWhole items
  | mapping _ entries => entriesWhole entries
  | anchored _ node => node.isWhole
  | broken => false

def areWhole : List Node → Bool
  | [] => true
  | node :: rest => node.isWhole && areWhole rest

def entriesWhole : List (Node × Node) → Bool
  | [] => true
  | (key, value) :: rest => key.isWhole && value.isWhole && entriesWhole rest

end

-- Anchors in the order of the document.
abbrev Anchors := List (Nat × Node)

mutual

def anchors : Node → Anchors
  | scalar .. | reference _ | broken => []
  | sequence _ items => anchorsOf items
  | mapping _ entries => entryAnchors entries
  | anchored number node => (number, node) :: node.anchors

def anchorsOf : List Node → Anchors
  | [] => []
  | node :: rest => node.anchors ++ anchorsOf rest

def entryAnchors : List (Node × Node) → Anchors
  | [] => []
  | (key, value) :: rest => key.anchors ++ value.anchors ++ entryAnchors rest

end

-- The node that an alias means is the last one with its number.
def resolve (anchors : Anchors) : Node → Node
  | reference number => (anchors.reverse.lookup number).getD broken
  | anchored _ node => node
  | node => node

end Node

end RoutingProcessor.Yaml
