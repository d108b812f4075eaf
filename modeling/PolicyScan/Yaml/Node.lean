/-!
# Nodes of YAML

A document is one node.  An anchor marks a node with a number, and an alias
stands for the last node with its number.
-/

namespace PolicyScan.Yaml

/-- What stands in front of a node. -/
structure Properties where
  anchor : Option Nat := none
  tag : Option (List Char) := none
deriving DecidableEq

/-- A node. -/
inductive Node where
  | scalar (props : Properties) (plain : Bool) (text : List Char)
  | sequence (props : Properties) (items : List Node)
  | mapping (props : Properties) (entries : List (Node × Node))
  | alias (anchor : Nat)
deriving Inhabited

namespace Node

/-- The node that is not written. -/
def empty : Node := .scalar {} true []

mutual

/-- The number of scalars and aliases, and of the starts and ends of
collections. -/
def eventCount : Node → Nat
  | .sequence _ items => eventCountItems items + 2
  | .mapping _ entries => eventCountEntries entries + 2
  | _ => 1

/-- The sum over the items. -/
def eventCountItems : List Node → Nat
  | [] => 0
  | item :: rest => eventCount item + eventCountItems rest

/-- The sum over keys and values. -/
def eventCountEntries : List (Node × Node) → Nat
  | [] => 0
  | (key, value) :: rest => eventCount key + eventCount value + eventCountEntries rest

end

/-- The node with the anchor it is marked with. -/
def marked (props : Properties) (node : Node) : List (Nat × Node) :=
  props.anchor.toList.map fun anchor => (anchor, node)

mutual

/-- The marked nodes, each before the ones inside of it. -/
def anchors : Node → List (Nat × Node)
  | .scalar props plain text => marked props (.scalar props plain text)
  | .sequence props items => marked props (.sequence props items) ++ anchorsItems items
  | .mapping props entries => marked props (.mapping props entries) ++ anchorsEntries entries
  | .alias _ => []

/-- The marked nodes of the items. -/
def anchorsItems : List Node → List (Nat × Node)
  | [] => []
  | item :: rest => anchors item ++ anchorsItems rest

/-- The marked nodes of keys and values. -/
def anchorsEntries : List (Node × Node) → List (Nat × Node)
  | [] => []
  | (key, value) :: rest => anchors key ++ (anchors value ++ anchorsEntries rest)

end

end Node
end PolicyScan.Yaml
