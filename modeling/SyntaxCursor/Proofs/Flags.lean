import SyntaxCursor.Abstract.Selected

/-!
# Flags of abstract trees

`Item.nodesList` lists the nodes of items in document order by recursion; a tree's own listing,
which keeps a stack, is the same (`Node.nodes_eq`). `selectedIn` are the selected ones among
them. `unmark` takes every flag from a tree and leaves all else, so it changes nothing where
nothing is selected.
-/
namespace SyntaxCursor.Abstract

/-- The same node with its flag set. -/
def Node.select (n : Node) : Node := { n with info := { n.info with selected := true } }

namespace Item

mutual

/-- The nodes of an item in document order. -/
def nodes : Item → List Node
  | .scalar _ => []
  | .node info children => ⟨info, children⟩ :: nodesList children

def nodesList : List Item → List Node
  | [] => []
  | i :: is => nodes i ++ nodesList is

end

@[simp] theorem nodes_scalar (value : Scalar) : nodes (.scalar value) = [] := by rw [nodes]

@[simp] theorem nodes_node (info : NodeInfo) (children : List Item) :
    nodes (.node info children) = ⟨info, children⟩ :: nodesList children := by
  rw [nodes]

@[simp] theorem nodesList_nil : nodesList [] = [] := by rw [nodesList]

@[simp] theorem nodesList_cons (i : Item) (is : List Item) :
    nodesList (i :: is) = nodes i ++ nodesList is := by
  rw [nodesList]

@[simp] theorem nodesList_append (is js : List Item) :
    nodesList (is ++ js) = nodesList is ++ nodesList js := by
  induction is with
  | nil => simp
  | cons i is ih => simp [ih]

mutual

theorem length_nodes (i : Item) : (nodes i).length = size i := by
  match i with
  | .scalar value => rw [nodes_scalar, size_scalar, List.length_nil]
  | .node info children => rw [nodes_node, size_node, List.length_cons, length_nodesList]

theorem length_nodesList (is : List Item) : (nodesList is).length = sizes is := by
  match is with
  | [] => rw [nodesList_nil, sizes_nil, List.length_nil]
  | i :: is => rw [nodesList_cons, sizes_cons, List.length_append, length_nodes, length_nodesList]

end

mutual

/-- A node on the stack is listed with all that is below it before the rest of the stack. -/
theorem visit_node (info : NodeInfo) (children : List Item) (fuel : Nat) (stack : List Node) :
    Node.visit (fuel + size (.node info children)) (⟨info, children⟩ :: stack) =
      nodes (.node info children) ++ Node.visit fuel stack := by
  rw [size_node, ← Nat.add_assoc, Node.visit, Node.childNodes, visit_items children fuel stack,
    nodes_node, List.cons_append]

theorem visit_items (is : List Item) (fuel : Nat) (stack : List Node) :
    Node.visit (fuel + sizes is) (is.filterMap node? ++ stack) =
      nodesList is ++ Node.visit fuel stack := by
  match is with
  | [] => simp
  | .scalar value :: is =>
    rw [List.filterMap_cons_none rfl, sizes_cons, size_scalar, Nat.zero_add,
      visit_items is fuel stack, nodesList_cons, nodes_scalar, List.nil_append]
  | .node info children :: is =>
    have hfuel : fuel + sizes (.node info children :: is) =
        fuel + sizes is + size (.node info children) := by
      rw [sizes_cons]
      omega
    have hnode : node? (.node info children) = some ⟨info, children⟩ := rfl
    rw [List.filterMap_cons_some hnode, List.cons_append, hfuel,
      visit_node info children (fuel + sizes is), visit_items is fuel stack, nodesList_cons,
      List.append_assoc]

end

mutual

def unmark : Item → Item
  | .scalar value => .scalar value
  | .node info children => .node { info with selected := false } (unmarkList children)

def unmarkList : List Item → List Item
  | [] => []
  | i :: is => unmark i :: unmarkList is

end

@[simp] theorem unmark_scalar (value : Scalar) : unmark (.scalar value) = .scalar value := by
  rw [unmark]

@[simp] theorem unmark_node (info : NodeInfo) (children : List Item) :
    unmark (.node info children) =
      .node { info with selected := false } (unmarkList children) := by
  rw [unmark]

@[simp] theorem unmarkList_nil : unmarkList [] = [] := by rw [unmarkList]

@[simp] theorem unmarkList_cons (i : Item) (is : List Item) :
    unmarkList (i :: is) = unmark i :: unmarkList is := by
  rw [unmarkList]

@[simp] theorem unmarkList_append (is js : List Item) :
    unmarkList (is ++ js) = unmarkList is ++ unmarkList js := by
  induction is with
  | nil => simp
  | cons i is ih => simp [ih]

/-- The selected nodes of items in document order. -/
def selectedIn (is : List Item) : List Node := (nodesList is).filter (·.info.selected)

@[simp] theorem selectedIn_nil : selectedIn [] = [] := by simp [selectedIn]

@[simp] theorem selectedIn_append (is js : List Item) :
    selectedIn (is ++ js) = selectedIn is ++ selectedIn js := by
  simp [selectedIn]

@[simp] theorem selectedIn_scalar (value : Scalar) (is : List Item) :
    selectedIn (.scalar value :: is) = selectedIn is := by
  simp [selectedIn]

theorem selectedIn_node (info : NodeInfo) (children : List Item) :
    selectedIn [.node info children] =
      (if info.selected then [⟨info, children⟩] else []) ++ selectedIn children := by
  cases h : info.selected <;> simp [selectedIn, h]

mutual

/-- Nothing is selected where the flags were taken away. -/
theorem selected_of_mem_nodes_unmark {i : Item} {n : Node} (h : n ∈ nodes (unmark i)) :
    n.info.selected = false := by
  match i with
  | .scalar value => simp at h
  | .node info children =>
    rw [unmark_node, nodes_node] at h
    rcases List.mem_cons.1 h with rfl | h
    · rfl
    · exact selected_of_mem_nodesList_unmarkList h

theorem selected_of_mem_nodesList_unmarkList {is : List Item} {n : Node}
    (h : n ∈ nodesList (unmarkList is)) : n.info.selected = false := by
  match is with
  | [] => simp at h
  | i :: is =>
    rw [unmarkList_cons, nodesList_cons] at h
    rcases List.mem_append.1 h with h | h
    · exact selected_of_mem_nodes_unmark h
    · exact selected_of_mem_nodesList_unmarkList h

end

@[simp] theorem selectedIn_unmarkList (is : List Item) : selectedIn (unmarkList is) = [] := by
  rw [selectedIn, List.filter_eq_nil_iff]
  intro n hn
  simp [selected_of_mem_nodesList_unmarkList hn]

section ModifyAt

variable {f : Node → Node}

mutual

/-- A change of flags at one place changes nothing but flags. -/
theorem unmark_modifyAt (hf : ∀ n, (f n).toItem.unmark = n.toItem.unmark) (place : Nat)
    (i : Item) : unmark (modifyAt f place i) = unmark i := by
  match place, i with
  | place, .scalar value => rw [modifyAt_scalar]
  | 0, .node info children => rw [modifyAt_node_zero, hf, Node.toItem]
  | place + 1, .node info children =>
    rw [modifyAt_node_succ, unmark_node, unmark_node, unmarkList_modifyAtList hf]

theorem unmarkList_modifyAtList (hf : ∀ n, (f n).toItem.unmark = n.toItem.unmark) (place : Nat)
    (is : List Item) : unmarkList (modifyAtList f place is) = unmarkList is := by
  match is with
  | [] => rw [modifyAtList_nil]
  | i :: is =>
    rw [modifyAtList_cons]
    split
    · rw [unmarkList_cons, unmarkList_cons, unmark_modifyAt hf]
    · rw [unmarkList_cons, unmarkList_cons, unmarkList_modifyAtList hf]

end

end ModifyAt

end Item

namespace Node

/-- The nodes of a tree by recursion. -/
theorem nodes_eq (n : Node) : n.nodes = n :: Item.nodesList n.children := by
  have h := Item.visit_node n.info n.children 0 []
  simpa [nodes, size, visit] using h

theorem nodes_toItem (n : Node) : Item.nodes n.toItem = n.nodes := by
  rw [nodes_eq, toItem, Item.nodes_node]

/-- The selected nodes of a tree in document order. -/
def selectedNodes (n : Node) : List Node := n.nodes.filter (·.info.selected)

theorem selectedNodes_eq (n : Node) : n.selectedNodes = Item.selectedIn [n.toItem] := by
  simp [selectedNodes, nodes_eq, Item.selectedIn, toItem]

theorem selectedCount_eq (n : Node) : n.selectedCount = n.selectedNodes.length := by
  rw [selectedCount, selectedNodes, List.countP_eq_length_filter]

/-- What stands at the place of the first selected node. -/
theorem getElem?_firstSelected? (n : Node) :
    n.firstSelected?.bind (n.nodes[·]?) = n.selectedNodes.head? := by
  rw [firstSelected?, selectedNodes, List.head?_filter, List.find?_eq_bind_findIdx?_getElem?]

def unmark (n : Node) : Node :=
  { info := { n.info with selected := false }
    children := Item.unmarkList n.children }

theorem toItem_unmark (n : Node) : n.unmark.toItem = n.toItem.unmark := by
  rw [toItem, toItem, Item.unmark_node]
  rfl

theorem unmark_modifyAt_deselect (place : Nat) (n : Node) :
    (n.modifyAt deselect place).unmark = n.unmark := by
  have hdeselect : ∀ m : Node, m.deselect.toItem.unmark = m.toItem.unmark := by
    intro m
    rw [← toItem_unmark, ← toItem_unmark]
    rfl
  have hitem := Item.unmark_modifyAt hdeselect place n.toItem
  rw [← toItem_modifyAt, ← toItem_unmark, ← toItem_unmark] at hitem
  exact Option.some.inj (congrArg Item.node? hitem)

theorem unmark_keepFirst (n : Node) : n.keepFirst.unmark = n.unmark := by
  have hfold : ∀ (places : List Nat) (tree : Node),
      (places.foldl (fun tree place => tree.modifyAt deselect place) tree).unmark =
        tree.unmark := by
    intro places
    induction places with
    | nil => exact fun tree => rfl
    | cons place places ih =>
      intro tree
      rw [List.foldl_cons, ih, unmark_modifyAt_deselect]
  exact hfold n.selectedPlaces.tail n

end Node

end SyntaxCursor.Abstract
