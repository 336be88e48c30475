import Almanac.Yaml.Scalar

/-!
# Nodes by number

A node of a document can be repeated by its name, also inside itself, so the nodes do not
make a tree. Each has a number, and a collection holds the numbers of its parts. What a
node is read as is said by its kind, which need not suit what it holds.

* `node_add`: **a node that is added has the next number**, and the others keep theirs.
* `node_fill_of_ne`: to fill one node leaves the others as they are.
-/

namespace Almanac.Yaml

/-- What a node holds. -/
inductive Content where
  | scalar (t : Text)
  | sequence (items : List Nat)
  | mapping (entries : List (Nat × Nat))
deriving DecidableEq

/-- What a node is read as, and what it holds. -/
structure Node where
  kind : Kind
  content : Content
deriving DecidableEq

/-- A node that is not there. -/
def Node.nothing : Node := ⟨.null, .scalar []⟩

/-- The nodes of a document, each at the place of its number. -/
abbrev Graph := Array Node

namespace Graph

/-- The node of a number. -/
def node (g : Graph) (n : Nat) : Node := g.getD n .nothing

/-- The graph with one more node. -/
def add (g : Graph) (node : Node) : Graph := g.push node

/-- Gives a node its content. -/
def fill (g : Graph) (n : Nat) (content : Content) : Graph :=
  g.modify n fun node => { node with content := content }

/-- Gives a node another kind. -/
def mark (g : Graph) (n : Nat) (kind : Kind) : Graph :=
  g.modify n fun node => { node with kind := kind }

/-- The entries of a node; what is no mapping has none. -/
def entries (g : Graph) (n : Nat) : List (Nat × Nat) :=
  match (g.node n).content with
  | .mapping entries => entries
  | _ => []

/-- **A node that is added has the next number.** -/
theorem node_add (g : Graph) (node : Node) : (g.add node).node g.size = node := by
  simp [Graph.node, add]

/-- The others keep theirs. -/
theorem node_add_of_lt {g : Graph} {node : Node} {n : Nat} (h : n < g.size) :
    (g.add node).node n = g.node n := by
  simp [Graph.node, add, h, Nat.lt_succ_of_lt h, Array.getElem_push_lt h]

/-- To fill one node leaves the others as they are. -/
theorem node_fill_of_ne {g : Graph} {n m : Nat} {content : Content} (h : n ≠ m) :
    (g.fill n content).node m = g.node m := by
  simp [Graph.node, fill, Array.getElem?_modify, h]

end Graph

end Almanac.Yaml
