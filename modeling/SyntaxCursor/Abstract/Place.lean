import SyntaxCursor.Abstract.Node

/-!
# Nodes by their places

A node of a tree is found again by its place in document order. `Node.modifyAt` changes the node
at one place, wherever it is in the tree, and leaves all others.
-/
namespace SyntaxCursor.Abstract

variable (f : Node → Node)

namespace Item

mutual

/-- Change the node at a place of an item. -/
def modifyAt : Nat → Item → Item
  | _, .scalar value => .scalar value
  | 0, .node info children => (f ⟨info, children⟩).toItem
  | place + 1, .node info children => .node info (modifyAtList place children)

/-- Change the node at a place of a list of items. -/
def modifyAtList : Nat → List Item → List Item
  | _, [] => []
  | place, i :: is =>
    if place < i.size then modifyAt place i :: is
    else i :: modifyAtList (place - i.size) is

end

@[simp] theorem modifyAt_scalar (place : Nat) (value : Scalar) :
    modifyAt f place (.scalar value) = .scalar value := by
  rw [modifyAt]

@[simp] theorem modifyAt_node_zero (info : NodeInfo) (children : List Item) :
    modifyAt f 0 (.node info children) = (f ⟨info, children⟩).toItem := by
  rw [modifyAt]

@[simp] theorem modifyAt_node_succ (place : Nat) (info : NodeInfo) (children : List Item) :
    modifyAt f (place + 1) (.node info children) =
      .node info (modifyAtList f place children) := by
  rw [modifyAt]

@[simp] theorem modifyAtList_nil (place : Nat) : modifyAtList f place [] = [] := by
  rw [modifyAtList]

theorem modifyAtList_cons (place : Nat) (i : Item) (is : List Item) :
    modifyAtList f place (i :: is) =
      if place < i.size then modifyAt f place i :: is
      else i :: modifyAtList f (place - i.size) is := by
  rw [modifyAtList]

end Item

/-- Change the node at a place of a tree. -/
def Node.modifyAt : Nat → Node → Node
  | 0, n => f n
  | place + 1, n => { n with children := Item.modifyAtList f place n.children }

theorem Node.toItem_modifyAt (place : Nat) (n : Node) :
    (n.modifyAt f place).toItem = n.toItem.modifyAt f place := by
  obtain ⟨info, children⟩ := n
  cases place with
  | zero => exact (Item.modifyAt_node_zero f info children).symm
  | succ place => exact (Item.modifyAt_node_succ f place info children).symm

end SyntaxCursor.Abstract
