import SyntaxCursor.Abstract.Place

/-!
# At most one selected node

A tree may leave the conversion with one selected node at most. `Node.keepFirst` keeps the
mark of the first selected node in document order and takes it from all others.
-/
namespace SyntaxCursor.Abstract.Node

/-- The number of selected nodes. -/
def selectedCount (n : Node) : Nat := n.nodes.countP (·.info.selected)

/-- Where the first selected node stands in document order. -/
def firstSelected? (n : Node) : Option Nat := n.nodes.findIdx? (·.info.selected)

/-- Where the selected nodes stand in document order. -/
def selectedPlaces (n : Node) : List Nat :=
  (n.nodes.zipIdx.filter (·.1.info.selected)).map Prod.snd

/-- The same node without its own mark. -/
def deselect (n : Node) : Node := { n with info := { n.info with selected := false } }

/-- Take the mark from each selected node after the first. -/
def keepFirst (n : Node) : Node :=
  n.selectedPlaces.tail.foldl (fun tree place => tree.modifyAt deselect place) n

end SyntaxCursor.Abstract.Node
