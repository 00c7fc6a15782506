import SyntaxCursor.Number.Binary64

/-!
# Abstract trees

An abstract node has a kind, the line and byte span it comes from, a mark that tells whether
it is selected, and children that are nodes or scalars. `Node.nodes` lists the nodes of a
tree in document order; it keeps the nodes still to be visited on a stack.
-/
namespace SyntaxCursor.Abstract

open Number

/-- A value without children. -/
inductive Scalar where
  | null
  | text (s : String)
  | int (n : Int)
  | float (x : Binary64)
  deriving DecidableEq, Repr, Inhabited

/-- An abstract node, its children apart. -/
structure NodeInfo where
  kind : String
  line : Int
  start : Int
  stop : Int
  selected : Bool
  deriving DecidableEq, Repr, Inhabited

/-- A child of an abstract node. -/
inductive Item where
  | scalar (value : Scalar)
  | node (info : NodeInfo) (children : List Item)
  deriving Inhabited

structure Node where
  info : NodeInfo
  children : List Item
  deriving Inhabited

namespace Item

def node? : Item → Option Node
  | .node info children => some ⟨info, children⟩
  | .scalar _ => none

def scalar? : Item → Option Scalar
  | .scalar value => some value
  | .node _ _ => none

mutual

def size : Item → Nat
  | .scalar _ => 0
  | .node _ children => sizes children + 1

/-- The number of nodes of a list of items. -/
def sizes : List Item → Nat
  | [] => 0
  | i :: is => size i + sizes is

end

@[simp] theorem size_scalar (value : Scalar) : size (.scalar value) = 0 := by rw [size]

@[simp] theorem size_node (info : NodeInfo) (children : List Item) :
    size (.node info children) = sizes children + 1 := by rw [size]

@[simp] theorem sizes_nil : sizes [] = 0 := by rw [sizes]

@[simp] theorem sizes_cons (i : Item) (is : List Item) : sizes (i :: is) = size i + sizes is := by
  rw [sizes]

end Item

namespace Node

/-- A node as a child of another. -/
def toItem (n : Node) : Item := .node n.info n.children

@[simp] theorem node?_toItem (n : Node) : n.toItem.node? = some n := rfl

def size (n : Node) : Nat := Item.sizes n.children + 1

def childNodes (n : Node) : List Node := n.children.filterMap Item.node?

def scalars (n : Node) : List Scalar := n.children.filterMap Item.scalar?

/-- List nodes from a stack: take the uppermost, and put its child nodes in its place. -/
def visit : Nat → List Node → List Node
  | 0, _ => []
  | _, [] => []
  | fuel + 1, n :: stack => n :: visit fuel (n.childNodes ++ stack)

/-- The nodes of a tree in document order, each before its children. -/
def nodes (n : Node) : List Node := visit n.size [n]

end Node

end SyntaxCursor.Abstract
