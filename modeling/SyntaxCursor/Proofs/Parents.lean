import SyntaxCursor.Proofs.Origins

/-!
# The places of parents

Nodes are counted in document order, and `Node.parents` tells at which place the parent of each
stands. Where the places of a tree are those of its origins, a parent is the node of the owner
(`map_parents_plainItems`).
-/
namespace SyntaxCursor.Abstract

namespace Item

mutual

/-- The places of the parents of the nodes of an item, in document order, if the item hangs
under the node at `parent` and its first node stands at `place`. -/
def parents (parent : Option Nat) (place : Nat) : Item → List (Option Nat)
  | .scalar _ => []
  | .node _ children => parent :: parentsList (some place) (place + 1) children

/-- The places of the parents of the nodes of items. -/
def parentsList (parent : Option Nat) (place : Nat) : List Item → List (Option Nat)
  | [] => []
  | i :: is => parents parent place i ++ parentsList parent (place + size i) is

end

@[simp] theorem parents_scalar (parent : Option Nat) (place : Nat) (value : Scalar) :
    parents parent place (.scalar value) = [] := by
  rw [parents]

@[simp] theorem parents_node (parent : Option Nat) (place : Nat) (info : NodeInfo)
    (children : List Item) :
    parents parent place (.node info children) =
      parent :: parentsList (some place) (place + 1) children := by
  rw [parents]

@[simp] theorem parentsList_nil (parent : Option Nat) (place : Nat) :
    parentsList parent place [] = [] := by
  rw [parentsList]

@[simp] theorem parentsList_cons (parent : Option Nat) (place : Nat) (i : Item)
    (is : List Item) :
    parentsList parent place (i :: is) =
      parents parent place i ++ parentsList parent (place + size i) is := by
  rw [parentsList]

theorem parentsList_append (parent : Option Nat) (place : Nat) (is js : List Item) :
    parentsList parent place (is ++ js) =
      parentsList parent place is ++ parentsList parent (place + sizes is) js := by
  induction is generalizing place with
  | nil => simp
  | cons i is ih => simp [ih, Nat.add_assoc]

/-- Only nodes have places. -/
theorem parentsList_filterMap_node? (parent : Option Nat) (place : Nat) (is : List Item) :
    parentsList parent place ((is.filterMap node?).map Node.toItem) =
      parentsList parent place is := by
  induction is generalizing place with
  | nil => rfl
  | cons i is ih =>
    cases i with
    | scalar value =>
      rw [List.filterMap_cons_none rfl, ih, parentsList_cons, parents_scalar, size_scalar]
      rfl
    | node info children =>
      have hnode : node? (.node info children) = some ⟨info, children⟩ := rfl
      rw [List.filterMap_cons_some hnode, List.map_cons, parentsList_cons, parentsList_cons, ih]
      rfl

theorem parentsList_congr {is js : List Item}
    (h : is.filterMap node? = js.filterMap node?) (parent : Option Nat) (place : Nat) :
    parentsList parent place is = parentsList parent place js := by
  rw [← parentsList_filterMap_node?, h, parentsList_filterMap_node?]

end Item

/-- The places of the parents of the nodes of a tree, in document order. -/
def Node.parents (n : Node) : List (Option Nat) := n.toItem.parents none 0

end SyntaxCursor.Abstract

namespace SyntaxCursor.Conversion

open Abstract Concrete

/-- At the places from `place` on, `creator` gives the entities of these origins. -/
def PlacedFrom (creator : Nat → Option Nat) (place : Nat) (os : List Origin) : Prop :=
  ∀ j o, os[j]? = some o → creator (place + j) = some o.entity.index

namespace PlacedFrom

variable {creator : Nat → Option Nat} {place : Nat}

theorem head {o : Origin} {os : List Origin} (h : PlacedFrom creator place (o :: os)) :
    creator place = some o.entity.index := h 0 o rfl

theorem tail {o : Origin} {os : List Origin} (h : PlacedFrom creator place (o :: os)) :
    PlacedFrom creator (place + 1) os := by
  intro j o' ho'
  have hnext := h (j + 1) o' ho'
  rwa [Nat.add_comm j 1, ← Nat.add_assoc] at hnext

theorem left {os os' : List Origin} (h : PlacedFrom creator place (os ++ os')) :
    PlacedFrom creator place os := by
  intro j o ho
  have hlt := (List.getElem?_eq_some_iff.1 ho).1
  exact h j o (by rw [List.getElem?_append_left hlt, ho])

theorem right {os os' : List Origin} (h : PlacedFrom creator place (os ++ os')) :
    PlacedFrom creator (place + os.length) os' := by
  intro j o ho
  have hlater := h (os.length + j) o (by
    rw [List.getElem?_append_right (Nat.le_add_right _ _), Nat.add_sub_cancel_left, ho])
  rwa [← Nat.add_assoc] at hlater

end PlacedFrom

section Recursive

variable {source : List UInt8} {version : Int} {creator : Nat → Option Nat}

theorem length_treeOrigins (owner parent : Option Nat) (k : Nat) (t : ParseTree) :
    (treeOrigins source version owner parent k t).length =
      Item.sizes (plainItems source version parent k t) := by
  rw [← Item.length_nodesList, ← map_node_treeOrigins owner, List.length_map]

mutual

/-- Where `creator` gives the entities of the origins, it turns the places of the parents into
the owners. -/
theorem map_parents_plainItems {y owner parent : Option Nat} {place k : Nat} {t : ParseTree}
    (hy : y.bind creator = owner)
    (hplaced : PlacedFrom creator place (treeOrigins source version owner parent k t)) :
    (Item.parentsList y place (plainItems source version parent k t)).map (·.bind creator) =
      (treeOrigins source version owner parent k t).map (·.owner) := by
  match t with
  | .node info children =>
    cases hm : info.isMissing with
    | true =>
      rw [treeOrigins_of_isMissing hm, plainItems_of_isMissing hm, Item.parentsList_nil]
      rfl
    | false =>
      cases h : makesNode (Entity.ofTree source parent k (.node info children))
        (plainForest source version k (k + 1) children) with
      | true =>
        rw [treeOrigins_of_makesNode h] at hplaced ⊢
        have hroot : (some place).bind creator = some k := hplaced.head
        have hbelow := map_parents_plainForest hroot hplaced.tail
        rw [plainItems_of_makesNode h, Item.parentsList_cons, Item.parentsList_nil,
          List.append_nil, Node.toItem, Item.parents_node, List.map_cons, List.map_cons, hy]
        exact congrArg (owner :: ·) hbelow
      | false =>
        -- Whether the items below are passed on or folded, the nodes among them stay the same.
        rw [treeOrigins_of_not_makesNode hm h] at hplaced ⊢
        rw [Item.parentsList_congr (filterMap_node?_plainItems hm h)]
        exact map_parents_plainForest hy hplaced

theorem map_parents_plainForest {y owner : Option Nat} {place parent next : Nat}
    {ts : List ParseTree} (hy : y.bind creator = owner)
    (hplaced : PlacedFrom creator place (forestOrigins source version owner parent next ts)) :
    (Item.parentsList y place (plainForest source version parent next ts)).map
        (·.bind creator) =
      (forestOrigins source version owner parent next ts).map (·.owner) := by
  match ts with
  | [] => rw [forestOrigins_nil, plainForest_nil, Item.parentsList_nil]; rfl
  | t :: ts =>
    rw [forestOrigins_cons] at hplaced ⊢
    have hrest := hplaced.right
    rw [length_treeOrigins] at hrest
    rw [plainForest_cons, Item.parentsList_append, List.map_append, List.map_append,
      map_parents_plainItems hy hplaced.left, map_parents_plainForest hy hrest]

end

end Recursive

end SyntaxCursor.Conversion
