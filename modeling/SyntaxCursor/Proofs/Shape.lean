import SyntaxCursor.Conversion.Rule
import SyntaxCursor.Proofs.Flags

/-!
# The shape of abstract trees

`mapInfo f` changes what the nodes of a tree carry and leaves its shape and its scalars. The rules
that ask whether items are all texts, or a single node, look at the shape alone. Two trees that
agree once their kinds are taken away (`unname`) and that have the same kinds in document order
are equal.
-/
namespace SyntaxCursor.Abstract

namespace Item

section MapInfo

variable (f : NodeInfo → NodeInfo)

mutual

/-- The same item with `f` applied to what its nodes carry. -/
def mapInfo : Item → Item
  | .scalar value => .scalar value
  | .node info children => .node (f info) (mapInfoList children)

/-- The same items with `f` applied to what their nodes carry. -/
def mapInfoList : List Item → List Item
  | [] => []
  | i :: is => mapInfo i :: mapInfoList is

end

@[simp] theorem mapInfo_scalar (value : Scalar) : mapInfo f (.scalar value) = .scalar value := by
  rw [mapInfo]

@[simp] theorem mapInfo_node (info : NodeInfo) (children : List Item) :
    mapInfo f (.node info children) = .node (f info) (mapInfoList f children) := by
  rw [mapInfo]

@[simp] theorem mapInfoList_nil : mapInfoList f [] = [] := by rw [mapInfoList]

@[simp] theorem mapInfoList_cons (i : Item) (is : List Item) :
    mapInfoList f (i :: is) = mapInfo f i :: mapInfoList f is := by
  rw [mapInfoList]

@[simp] theorem mapInfoList_append (is js : List Item) :
    mapInfoList f (is ++ js) = mapInfoList f is ++ mapInfoList f js := by
  induction is with
  | nil => simp
  | cons i is ih => simp [ih]

end MapInfo

end Item

/-- The same tree with `f` applied to what its nodes carry. -/
def Node.mapInfo (f : NodeInfo → NodeInfo) (n : Node) : Node :=
  { info := f n.info, children := Item.mapInfoList f n.children }

theorem Node.toItem_mapInfo (f : NodeInfo → NodeInfo) (n : Node) :
    (n.mapInfo f).toItem = n.toItem.mapInfo f := by
  rw [toItem, toItem, Item.mapInfo_node]
  rfl

namespace Item

variable (f : NodeInfo → NodeInfo)

mutual

theorem nodes_mapInfo (i : Item) : nodes (mapInfo f i) = (nodes i).map (Node.mapInfo f) := by
  match i with
  | .scalar value => simp
  | .node info children =>
    rw [mapInfo_node, nodes_node, nodes_node, List.map_cons, nodesList_mapInfoList]
    rfl

theorem nodesList_mapInfoList (is : List Item) :
    nodesList (mapInfoList f is) = (nodesList is).map (Node.mapInfo f) := by
  match is with
  | [] => simp
  | i :: is =>
    rw [mapInfoList_cons, nodesList_cons, nodesList_cons, List.map_append, nodes_mapInfo,
      nodesList_mapInfoList]

end

mutual

theorem unmark_eq_mapInfo (i : Item) :
    unmark i = mapInfo (fun info => { info with selected := false }) i := by
  match i with
  | .scalar value => simp
  | .node info children => rw [unmark_node, mapInfo_node, unmarkList_eq_mapInfoList]

theorem unmarkList_eq_mapInfoList (is : List Item) :
    unmarkList is = mapInfoList (fun info => { info with selected := false }) is := by
  match is with
  | [] => simp
  | i :: is =>
    rw [unmarkList_cons, mapInfoList_cons, unmark_eq_mapInfo, unmarkList_eq_mapInfoList]

end

end Item

namespace Node

theorem nodes_mapInfo (f : NodeInfo → NodeInfo) (n : Node) :
    (n.mapInfo f).nodes = n.nodes.map (mapInfo f) := by
  rw [nodes_eq, nodes_eq, List.map_cons, mapInfo, Item.nodesList_mapInfoList]

theorem unmark_eq_mapInfo (n : Node) :
    n.unmark = n.mapInfo fun info => { info with selected := false } := by
  rw [unmark, mapInfo, Item.unmarkList_eq_mapInfoList]

end Node

/-- The same node, its children apart, without its kind. -/
def NodeInfo.unname (info : NodeInfo) : NodeInfo := { info with kind := "" }

def Item.unnameList (is : List Item) : List Item := mapInfoList NodeInfo.unname is

namespace Node

def unname (n : Node) : Node := n.mapInfo NodeInfo.unname

/-- The kinds of the nodes of a tree in document order. -/
def kinds (n : Node) : List String := n.nodes.map (·.info.kind)

theorem unname_select (n : Node) : n.select.unname = n.unname.select := rfl

theorem kinds_unmark (n : Node) : n.unmark.kinds = n.kinds := by
  rw [kinds, unmark_eq_mapInfo, nodes_mapInfo, List.map_map]
  rfl

theorem firstSelected?_unname (n : Node) : n.unname.firstSelected? = n.firstSelected? := by
  rw [firstSelected?, unname, nodes_mapInfo, List.findIdx?_map]
  rfl

end Node

namespace Item

theorem unnameList_append (is js : List Item) :
    unnameList (is ++ js) = unnameList is ++ unnameList js :=
  mapInfoList_append NodeInfo.unname is js

theorem unnameList_toItem (n : Node) : unnameList [n.toItem] = [n.unname.toItem] := by
  rw [unnameList, mapInfoList_cons, mapInfoList_nil, ← Node.toItem_mapInfo]
  rfl

theorem length_nodesList_of_unnameList_eq {is js : List Item}
    (h : unnameList is = unnameList js) : (nodesList is).length = (nodesList js).length := by
  have hnodes := congrArg (fun ks => (nodesList ks).length) h
  simpa [unnameList, nodesList_mapInfoList] using hnodes

/-- Items are given by their shape, what else their nodes carry, and their kinds. -/
theorem eq_of_unnameList_eq {is js : List Item} (h : unnameList is = unnameList js)
    (hkinds : (nodesList is).map (·.info.kind) = (nodesList js).map (·.info.kind)) :
    is = js := by
  match is, js with
  | [], [] => rfl
  | [], j :: js => simp [unnameList] at h
  | i :: is, [] => simp [unnameList] at h
  | .scalar v :: is, .scalar w :: js =>
    obtain ⟨rfl, hrest⟩ : v = w ∧ unnameList is = unnameList js := by
      simpa [unnameList] using h
    rw [eq_of_unnameList_eq hrest (by simpa using hkinds)]
  | .scalar v :: is, .node info children :: js => simp [unnameList] at h
  | .node info children :: is, .scalar w :: js => simp [unnameList] at h
  | .node info children :: is, .node info' children' :: js =>
    obtain ⟨⟨hinfo, hchildren⟩, hrest⟩ : (info.unname = info'.unname ∧
        unnameList children = unnameList children') ∧ unnameList is = unnameList js := by
      simpa [unnameList] using h
    simp only [nodesList_cons, nodes_node, List.cons_append, List.map_cons, List.map_append,
      List.cons.injEq] at hkinds
    obtain ⟨hkind, hkinds⟩ := hkinds
    obtain ⟨hbelow, hafter⟩ := List.append_inj hkinds
      (by simpa using length_nodesList_of_unnameList_eq hchildren)
    obtain rfl : info = info' := by
      cases info
      cases info'
      simp only [NodeInfo.unname, NodeInfo.mk.injEq] at hinfo hkind ⊢
      exact ⟨hkind, hinfo.2⟩
    rw [eq_of_unnameList_eq hchildren hbelow, eq_of_unnameList_eq hrest hafter]

end Item

/-- A tree is given by its shape, what else its nodes carry, and their kinds. -/
theorem Node.eq_of_unname_eq {m n : Node} (h : m.unname = n.unname) (hkinds : m.kinds = n.kinds) :
    m = n := by
  have hitems : Item.unnameList [m.toItem] = Item.unnameList [n.toItem] := by
    simpa [unname, mapInfo, Item.unnameList, toItem] using h
  have hitem := Item.eq_of_unnameList_eq hitems (by simpa [kinds, nodes_eq, toItem] using hkinds)
  simpa [toItem, ← Node.mk.injEq] using hitem

end SyntaxCursor.Abstract

namespace SyntaxCursor.Conversion

open Abstract Concrete

variable (f : NodeInfo → NodeInfo) (is : List Item)

theorem singleNode?_mapInfoList :
    singleNode? (Item.mapInfoList f is) = (singleNode? is).map (Node.mapInfo f) := by
  match is with
  | [] => simp [singleNode?]
  | [.scalar value] => simp [singleNode?, Item.node?]
  | [.node info children] => simp [singleNode?, Item.node?, Node.mapInfo]
  | _ :: _ :: _ => simp [singleNode?]

theorem joinTexts?_mapInfoList : joinTexts? (Item.mapInfoList f is) = joinTexts? is := by
  induction is with
  | nil => simp
  | cons i is ih =>
    cases i with
    | scalar value =>
      cases value with
      | text s => simp [joinTexts?, ih]
      | null => simp [joinTexts?]
      | int n => simp [joinTexts?]
      | float x => simp [joinTexts?]
    | node info children => simp [joinTexts?]

end SyntaxCursor.Conversion
