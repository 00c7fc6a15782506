import SyntaxCursor.Navigation.Analyzer
import SyntaxCursor.Proofs.Shape

/-!
# Edited trees

`editTree` edits the nodes of a tree by their places in document order: a node gets the last kind
that its edits set, and the scalars that they append stand behind its children. The edited tree has
the nodes of the tree in the same order, each with its own edits and those below it
(`nodes_editTree`), and so the selected node stays where it is. One more edit at a place is the
same as changing the node that stands there by then (`modifyAt_editTree`).
-/
namespace SyntaxCursor.Navigation

open Abstract

/-- The kind of a node after some edits. -/
def kindAfter (kind : String) (edits : List Edit) : String :=
  (edits.filterMap (·.kind)).getLast?.getD kind

/-- What some edits append to the children of a node. -/
def appendedBy (edits : List Edit) : List Item := (edits.filterMap (·.append)).map .scalar

@[simp] theorem kindAfter_nil (kind : String) : kindAfter kind [] = kind := rfl

@[simp] theorem appendedBy_nil : appendedBy [] = [] := rfl

theorem kindAfter_concat (kind : String) (edits : List Edit) (e : Edit) :
    kindAfter kind (edits ++ [e]) = e.kind.getD (kindAfter kind edits) := by
  rw [kindAfter, List.filterMap_append]
  cases hkind : e.kind <;> simp [hkind, kindAfter]

theorem appendedBy_concat (edits : List Edit) (e : Edit) :
    appendedBy (edits ++ [e]) = appendedBy edits ++ e.append.toList.map .scalar := by
  rw [appendedBy, List.filterMap_append, List.map_append]
  cases happend : e.append <;> simp [happend, appendedBy]

@[simp] theorem nodesList_appendedBy (edits : List Edit) :
    Item.nodesList (appendedBy edits) = [] := by
  rw [appendedBy]
  induction edits.filterMap (·.append) with
  | nil => simp
  | cons value values ih => simp [ih]

section EditAt

variable (edits : Nat → List Edit)

mutual

/-- An item of which the first node stands at `place` in document order, with each of its nodes
edited as is told for its place. -/
def editItem (place : Nat) : Item → Item
  | .scalar value => .scalar value
  | .node info children =>
    .node { info with kind := kindAfter info.kind (edits place) }
      (editItems (place + 1) children ++ appendedBy (edits place))

/-- Items of which the first node stands at `place` in document order, edited in the same way. -/
def editItems (place : Nat) : List Item → List Item
  | [] => []
  | i :: is => editItem place i :: editItems (place + i.size) is

end

/-- The node at a place in document order, edited as is told for this place and those below. -/
def editNode (place : Nat) (n : Node) : Node :=
  { info := { n.info with kind := kindAfter n.info.kind (edits place) }
    children := editItems edits (place + 1) n.children ++ appendedBy (edits place) }

/-- A tree with each node edited as is told for its place in document order. -/
def editTree (tree : Node) : Node := editNode edits 0 tree

@[simp] theorem editItem_scalar (place : Nat) (value : Scalar) :
    editItem edits place (.scalar value) = .scalar value := by
  rw [editItem]

theorem editItem_node (place : Nat) (info : NodeInfo) (children : List Item) :
    editItem edits place (.node info children) =
      (editNode edits place ⟨info, children⟩).toItem := by
  rw [editItem]
  rfl

theorem editItem_toItem (place : Nat) (n : Node) :
    editItem edits place n.toItem = (editNode edits place n).toItem := editItem_node edits place _ _

@[simp] theorem editItems_nil (place : Nat) : editItems edits place [] = [] := by
  rw [editItems]

@[simp] theorem editItems_cons (place : Nat) (i : Item) (is : List Item) :
    editItems edits place (i :: is) =
      editItem edits place i :: editItems edits (place + i.size) is := by
  rw [editItems]

mutual

/-- The nodes of an edited item are those of the item, each edited at its place. -/
theorem nodes_editItem (place : Nat) (i : Item) :
    Item.nodes (editItem edits place i) =
      ((Item.nodes i).zipIdx place).map fun (n, k) => editNode edits k n := by
  match i with
  | .scalar value => simp
  | .node info children =>
    rw [editItem, Item.nodes_node, Item.nodes_node, List.zipIdx_cons, List.map_cons,
      ← nodesList_editItems, Item.nodesList_append, nodesList_appendedBy, List.append_nil]
    rfl

theorem nodesList_editItems (place : Nat) (is : List Item) :
    Item.nodesList (editItems edits place is) =
      ((Item.nodesList is).zipIdx place).map fun (n, k) => editNode edits k n := by
  match is with
  | [] => simp
  | i :: is =>
    rw [editItems_cons, Item.nodesList_cons, Item.nodesList_cons, nodes_editItem,
      nodesList_editItems, List.zipIdx_append, List.map_append, Item.length_nodes]

end

theorem nodes_editTree (tree : Node) :
    (editTree edits tree).nodes = tree.nodes.zipIdx.map fun (n, k) => editNode edits k n := by
  rw [← Node.nodes_toItem, ← Node.nodes_toItem, editTree, ← editItem_toItem, nodes_editItem]

theorem getElem?_nodes_editTree (tree : Node) (place : Nat) :
    (editTree edits tree).nodes[place]? = (tree.nodes[place]?).map (editNode edits place) := by
  rw [nodes_editTree, List.getElem?_map, List.getElem?_zipIdx, Option.map_map, Nat.zero_add]
  rfl

@[simp] theorem size_editItem (place : Nat) (i : Item) :
    (editItem edits place i).size = i.size := by
  rw [← Item.length_nodes, nodes_editItem, List.length_map, List.length_zipIdx, Item.length_nodes]

/-- Edits leave the first selected node at its place. -/
theorem firstSelected?_editTree (tree : Node) :
    (editTree edits tree).firstSelected? = tree.firstSelected? := by
  have hflags : ∀ n : Node, n.firstSelected? = (n.nodes.map (·.info.selected)).findIdx? id := by
    intro n
    rw [Node.firstSelected?, List.findIdx?_map]
    rfl
  have hselected : (editTree edits tree).nodes.map (·.info.selected) =
      (tree.nodes.zipIdx.map Prod.fst).map (·.info.selected) := by
    rw [nodes_editTree, List.map_map, List.map_map]
    rfl
  rw [hflags, hflags, hselected, List.zipIdx_map_fst]

/-- The nodes at one place of a tree and of the edited tree differ, but for what is below them, in
their kinds alone. -/
theorem unname_getElem?_editTree (tree : Node) (place : Nat) :
    ((editTree edits tree).nodes[place]?).map (·.info.unname) =
      (tree.nodes[place]?).map (·.info.unname) := by
  rw [getElem?_nodes_editTree, Option.map_map]
  rfl

end EditAt

section NoEdits

mutual

theorem editItem_of_nil (place : Nat) (i : Item) : editItem (fun _ => []) place i = i := by
  match i with
  | .scalar value => simp
  | .node info children =>
    rw [editItem, editItems_of_nil, kindAfter_nil, appendedBy_nil, List.append_nil]

theorem editItems_of_nil (place : Nat) (is : List Item) :
    editItems (fun _ => []) place is = is := by
  match is with
  | [] => simp
  | i :: is => rw [editItems_cons, editItem_of_nil, editItems_of_nil]

end

theorem editTree_of_nil (tree : Node) : editTree (fun _ => []) tree = tree := by
  rw [editTree, editNode, editItems_of_nil, kindAfter_nil, appendedBy_nil, List.append_nil]

end NoEdits

section Congr

variable {edits edits' : Nat → List Edit}

mutual

/-- What an item becomes is decided by the edits for the places of its nodes. -/
theorem editItem_congr {place : Nat} {i : Item}
    (h : ∀ k, place ≤ k → k < place + i.size → edits k = edits' k) :
    editItem edits place i = editItem edits' place i := by
  match i with
  | .scalar value => simp
  | .node info children =>
    rw [Item.size_node] at h
    have hroot : edits place = edits' place := h place (Nat.le_refl place) (by omega)
    have hchildren : editItems edits (place + 1) children = editItems edits' (place + 1) children :=
      editItems_congr fun k hlo hhi => h k (by omega) (by omega)
    rw [editItem, editItem, hroot, hchildren]

theorem editItems_congr {place : Nat} {is : List Item}
    (h : ∀ k, place ≤ k → k < place + Item.sizes is → edits k = edits' k) :
    editItems edits place is = editItems edits' place is := by
  match is with
  | [] => simp
  | i :: is =>
    rw [Item.sizes_cons] at h
    have hfirst : editItem edits place i = editItem edits' place i :=
      editItem_congr fun k hlo hhi => h k hlo (by omega)
    have hrest : editItems edits (place + i.size) is = editItems edits' (place + i.size) is :=
      editItems_congr fun k hlo hhi => h k (by omega) (by omega)
    rw [editItems_cons, editItems_cons, hfirst, hrest]

end

/-- A node below which nothing is edited yet. -/
theorem editNode_of_below {place : Nat} (h : ∀ k, place < k → edits k = []) (n : Node) :
    editNode edits place n =
      { info := { n.info with kind := kindAfter n.info.kind (edits place) }
        children := n.children ++ appendedBy (edits place) } := by
  have hchildren : editItems edits (place + 1) n.children =
      editItems (fun _ => []) (place + 1) n.children :=
    editItems_congr fun k hlo _ => h k (by omega)
  rw [editNode, hchildren, editItems_of_nil]

end Congr

section OneMore

theorem modifyAtList_append (f : Node → Node) {place : Nat} {is : List Item} (js : List Item)
    (h : place < Item.sizes is) :
    Item.modifyAtList f place (is ++ js) = Item.modifyAtList f place is ++ js := by
  induction is generalizing place with
  | nil => simp at h
  | cons i is ih =>
    rw [List.cons_append, Item.modifyAtList_cons, Item.modifyAtList_cons]
    split
    · rfl
    · rw [Item.sizes_cons] at h
      rw [ih (by omega), List.cons_append]

theorem sizes_editItems (edits : Nat → List Edit) (place : Nat) (is : List Item) :
    Item.sizes (editItems edits place is) = Item.sizes is := by
  induction is generalizing place with
  | nil => simp
  | cons i is ih => simp [ih]

variable {edits edits' : Nat → List Edit} {e : Edit}

theorem apply_editNode {place : Nat} (hat : edits' place = edits place ++ [e])
    (hother : ∀ k ≠ place, edits' k = edits k) (n : Node) :
    e.apply (editNode edits place n) = editNode edits' place n := by
  have hchildren : editItems edits (place + 1) n.children =
      editItems edits' (place + 1) n.children :=
    editItems_congr fun k hlo _ => (hother k (by omega)).symm
  rw [editNode, editNode, hat, kindAfter_concat, appendedBy_concat, ← hchildren, Edit.apply,
    List.append_assoc]

mutual

/-- One more edit at a place of an item changes the node that stands there by then. -/
theorem modifyAt_editItem {place k : Nat} {i : Item} (hk : k < i.size)
    (hat : edits' (place + k) = edits (place + k) ++ [e])
    (hother : ∀ j ≠ place + k, edits' j = edits j) :
    (editItem edits place i).modifyAt e.apply k = editItem edits' place i := by
  match i with
  | .scalar value => simp at hk
  | .node info children =>
    cases k with
    | zero =>
      rw [editItem_node, editItem_node, Node.toItem, Item.modifyAt_node_zero]
      exact congrArg Node.toItem (apply_editNode hat hother ⟨info, children⟩)
    | succ k =>
      have hplace : place + (k + 1) = place + 1 + k := by omega
      rw [Item.size_node] at hk
      rw [hplace] at hat hother
      rw [editItem, editItem, Item.modifyAt_node_succ, hother place (by omega),
        modifyAtList_append _ _ (by rw [sizes_editItems]; omega),
        modifyAtList_editItems (by omega) hat hother]

theorem modifyAtList_editItems {place k : Nat} {is : List Item} (hk : k < Item.sizes is)
    (hat : edits' (place + k) = edits (place + k) ++ [e])
    (hother : ∀ j ≠ place + k, edits' j = edits j) :
    Item.modifyAtList e.apply k (editItems edits place is) = editItems edits' place is := by
  match is with
  | [] => simp at hk
  | i :: is =>
    rw [Item.sizes_cons] at hk
    rw [editItems_cons, editItems_cons, Item.modifyAtList_cons, size_editItem]
    split
    case isTrue hfirst =>
      have hrest : editItems edits (place + i.size) is = editItems edits' (place + i.size) is :=
        editItems_congr fun j hlo _ => (hother j (by omega)).symm
      rw [modifyAt_editItem hfirst hat hother, hrest]
    case isFalse hlater =>
      have hplace : place + k = place + i.size + (k - i.size) := by omega
      have hfirst : editItem edits place i = editItem edits' place i :=
        editItem_congr fun j _ hhi => (hother j (by omega)).symm
      rw [hplace] at hat hother
      rw [hfirst, modifyAtList_editItems (by omega) hat hother]

end

theorem modifyAt_editTree {place : Nat} {tree : Node} (hplace : place < tree.nodes.length)
    (hat : edits' place = edits place ++ [e]) (hother : ∀ k ≠ place, edits' k = edits k) :
    (editTree edits tree).modifyAt e.apply place = editTree edits' tree := by
  have hsize : place < tree.toItem.size := by
    rwa [← Item.length_nodes, Node.nodes_toItem]
  have hitem : ((editTree edits tree).modifyAt e.apply place).toItem =
      (editTree edits' tree).toItem := by
    rw [Node.toItem_modifyAt, editTree, editTree, ← editItem_toItem, ← editItem_toItem]
    refine modifyAt_editItem hsize ?_ ?_
    · rwa [Nat.zero_add]
    · rwa [Nat.zero_add]
  exact Option.some.inj (congrArg Item.node? hitem)

end OneMore

end SyntaxCursor.Navigation
