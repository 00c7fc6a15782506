import SyntaxCursor.Proofs.Bearer

/-!
# Enforcing a single selection

A tree may come with any flags. Of the flags of its nodes in document order, `Node.keepFirst`
keeps the first that is set and clears the others (`Node.flags_keepFirst`); `firstOf` does this
with a plain list of flags. A request enforces it only where several nodes are selected, but a
list in which at most one flag is set is not changed by it, so the outcome is the same for all
trees, and enforcing it once is enough (`enforceSingle_keeps_first`).
-/
namespace SyntaxCursor.Abstract

/-- The flags with the first that is set alone, or without any if one was `seen` before. -/
def firstOf (seen : Bool) : List Bool → List Bool
  | [] => []
  | b :: bs => (b && !seen) :: firstOf (seen || b) bs

theorem firstOf_true (bs : List Bool) : firstOf true bs = List.replicate bs.length false := by
  induction bs with
  | nil => rfl
  | cons b bs ih =>
    rw [firstOf, Bool.true_or, ih, Bool.not_true, Bool.and_false, List.length_cons,
      List.replicate_succ]

theorem firstOf_false_cons (b : Bool) (bs : List Bool) :
    firstOf false (b :: bs) = b :: firstOf b bs := by
  rw [firstOf, Bool.not_false, Bool.and_true, Bool.false_or]

/-- The flag that stays set is the first one that was. -/
theorem firstOf_false_eq (bs : List Bool) :
    firstOf false bs = (List.range bs.length).map fun k => bs.findIdx? id == some k := by
  induction bs with
  | nil => rfl
  | cons b bs ih =>
    rw [firstOf_false_cons, List.length_cons, List.range_succ_eq_map, List.map_cons, List.map_map,
      List.findIdx?_cons]
    cases b with
    | true => simp [firstOf_true, Function.comp_def, List.map_const']
    | false =>
      rw [ih]
      cases bs.findIdx? id <;> simp [Function.comp_def]

theorem findIdx?_firstOf (bs : List Bool) : (firstOf false bs).findIdx? id = bs.findIdx? id := by
  induction bs with
  | nil => rfl
  | cons b bs ih =>
    rw [firstOf_false_cons, List.findIdx?_cons, List.findIdx?_cons]
    cases b with
    | true => rfl
    | false => rw [ih]

theorem count_firstOf_le (bs : List Bool) : (firstOf false bs).count true ≤ 1 := by
  induction bs with
  | nil => simp [firstOf]
  | cons b bs ih =>
    rw [firstOf_false_cons]
    cases b with
    | true => simp [firstOf_true, List.count_replicate]
    | false => simpa using ih

/-- Where at most one flag is set, it is the first. -/
theorem firstOf_eq_self {bs : List Bool} (h : bs.count true ≤ 1) : firstOf false bs = bs := by
  induction bs with
  | nil => rfl
  | cons b bs ih =>
    rw [firstOf_false_cons]
    cases b with
    | true =>
      have hclear : bs.count true = 0 := by simpa using h
      have hfalse : bs = List.replicate bs.length false :=
        List.eq_replicate_iff.2 ⟨rfl, by simpa [List.count_eq_zero] using hclear⟩
      rw [firstOf_true, ← hfalse]
    | false => rw [ih (by simpa using h)]

/-- Where the flags are that are set, if the first flag stands at `place`. -/
def setPlaces (place : Nat) (bs : List Bool) : List Nat :=
  ((bs.zipIdx place).filter (·.1)).map Prod.snd

theorem setPlaces_cons (place : Nat) (b : Bool) (bs : List Bool) :
    setPlaces place (b :: bs) = (if b then [place] else []) ++ setPlaces (place + 1) bs := by
  cases b <;> simp [setPlaces, List.zipIdx_cons]

theorem setPlaces_succ (place : Nat) (bs : List Bool) :
    setPlaces (place + 1) bs = (setPlaces place bs).map (· + 1) := by
  rw [setPlaces, List.zipIdx_succ, List.filter_map, List.map_map]
  rw [setPlaces, List.map_map]
  rfl

/-- Clearing flags after the first leaves that one as it is. -/
theorem foldl_set_cons (b : Bool) (bs : List Bool) (places : List Nat) :
    (places.map (· + 1)).foldl (fun bs place => bs.set place false) (b :: bs) =
      b :: places.foldl (fun bs place => bs.set place false) bs := by
  induction places generalizing bs with
  | nil => rfl
  | cons place places ih =>
    rw [List.map_cons, List.foldl_cons, List.set_cons_succ, ih, List.foldl_cons]

theorem clear_setPlaces (bs : List Bool) :
    (setPlaces 0 bs).foldl (fun bs place => bs.set place false) bs = firstOf true bs := by
  induction bs with
  | nil => rfl
  | cons b bs ih =>
    have hrest : (setPlaces 1 bs).foldl (fun bs place => bs.set place false) (false :: bs) =
        firstOf true (b :: bs) := by
      rw [setPlaces_succ, foldl_set_cons, ih]
      simp [firstOf]
    cases b with
    | false => exact hrest
    | true => exact hrest

/-- To clear all flags but the first that is set leaves that one alone. -/
theorem clear_tail_setPlaces (bs : List Bool) :
    (setPlaces 0 bs).tail.foldl (fun bs place => bs.set place false) bs = firstOf false bs := by
  induction bs with
  | nil => rfl
  | cons b bs ih =>
    rw [setPlaces_cons, setPlaces_succ, firstOf_false_cons]
    cases b with
    | false => rw [if_neg Bool.false_ne_true, List.nil_append, ← List.map_tail, foldl_set_cons, ih]
    | true =>
      rw [if_pos rfl, List.singleton_append, List.tail_cons, foldl_set_cons, clear_setPlaces]

namespace Item

/-- The flags of the nodes of an item in document order. -/
def flags (i : Item) : List Bool := (nodes i).map (·.info.selected)

/-- The flags of the nodes of items in document order. -/
def flagsList (is : List Item) : List Bool := (nodesList is).map (·.info.selected)

@[simp] theorem flags_scalar (value : Scalar) : flags (.scalar value) = [] := by simp [flags]

@[simp] theorem flags_node (info : NodeInfo) (children : List Item) :
    flags (.node info children) = info.selected :: flagsList children := by
  simp [flags, flagsList]

@[simp] theorem flagsList_nil : flagsList [] = [] := by simp [flagsList]

@[simp] theorem flagsList_cons (i : Item) (is : List Item) :
    flagsList (i :: is) = flags i ++ flagsList is := by
  simp [flags, flagsList]

mutual

/-- Where one node is deselected, one flag is cleared. -/
theorem flags_modifyAt_deselect (place : Nat) (i : Item) :
    flags (modifyAt Node.deselect place i) = (flags i).set place false := by
  match place, i with
  | place, .scalar value => simp
  | 0, .node info children =>
    rw [modifyAt_node_zero, Node.deselect, Node.toItem, flags_node, flags_node, List.set_cons_zero]
  | place + 1, .node info children =>
    rw [modifyAt_node_succ, flags_node, flags_node, flagsList_modifyAtList_deselect,
      List.set_cons_succ]

theorem flagsList_modifyAtList_deselect (place : Nat) (is : List Item) :
    flagsList (modifyAtList Node.deselect place is) = (flagsList is).set place false := by
  match is with
  | [] => simp
  | i :: is =>
    have hlength : (flags i).length = i.size := by rw [flags, List.length_map, length_nodes]
    rw [modifyAtList_cons, flagsList_cons, List.set_append, hlength]
    split
    · rw [flagsList_cons, flags_modifyAt_deselect]
    · rw [flagsList_cons, flagsList_modifyAtList_deselect]

end

end Item

namespace Node

/-- The flags of the nodes of a tree in document order. -/
def flags (n : Node) : List Bool := n.nodes.map (·.info.selected)

theorem flags_toItem (n : Node) : n.toItem.flags = n.flags := by
  rw [flags, Item.flags, nodes_toItem]

theorem selectedCount_eq_count (n : Node) : n.selectedCount = n.flags.count true := by
  simp [selectedCount, flags, List.count, List.countP_map, Function.comp_def]

theorem firstSelected?_eq (n : Node) : n.firstSelected? = n.flags.findIdx? id := by
  rw [firstSelected?, flags, List.findIdx?_map]
  rfl

theorem flags_modifyAt_deselect (place : Nat) (n : Node) :
    (n.modifyAt deselect place).flags = n.flags.set place false := by
  rw [← flags_toItem, toItem_modifyAt, Item.flags_modifyAt_deselect, flags_toItem]

theorem flags_foldl_deselect (places : List Nat) (n : Node) :
    (places.foldl (fun tree place => tree.modifyAt deselect place) n).flags =
      places.foldl (fun bs place => bs.set place false) n.flags := by
  induction places generalizing n with
  | nil => rfl
  | cons place places ih => rw [List.foldl_cons, List.foldl_cons, ih, flags_modifyAt_deselect]

theorem selectedPlaces_eq (n : Node) : n.selectedPlaces = setPlaces 0 n.flags := by
  rw [selectedPlaces, setPlaces, flags, List.zipIdx_map, List.filter_map, List.map_map]
  rfl

/-- Of the flags of a tree, the first that is set is kept. -/
theorem flags_keepFirst (n : Node) : n.keepFirst.flags = firstOf false n.flags := by
  rw [keepFirst, flags_foldl_deselect, selectedPlaces_eq, clear_tail_setPlaces]

end Node

end SyntaxCursor.Abstract

namespace SyntaxCursor.Conversion

open Abstract

variable {π : Type} [Concrete.SelectionPolicy π]

/-- The first flag is kept whether or not there were others to clear. -/
theorem flags_enforceSingle (n : Node) : (enforceSingle n).1.flags = firstOf false n.flags := by
  unfold enforceSingle
  by_cases h : 1 < n.selectedCount
  · rw [if_pos h, Node.flags_keepFirst]
  · rw [if_neg h, firstOf_eq_self (by rw [← Node.selectedCount_eq_count]; omega)]

theorem selectedCount_enforceSingle_le (n : Node) : (enforceSingle n).1.selectedCount ≤ 1 := by
  rw [Node.selectedCount_eq_count, flags_enforceSingle]
  exact count_firstOf_le n.flags

theorem firstSelected?_enforceSingle (n : Node) :
    (enforceSingle n).1.firstSelected? = n.firstSelected? := by
  rw [Node.firstSelected?_eq, Node.firstSelected?_eq, flags_enforceSingle, findIdx?_firstOf]

/-- Whatever was selected before, the tree of a result has at most one selected node. -/
theorem selectedCount_of_answer {c : Converter π} {r : Request} {result : Result}
    (h : (c.convert r).answer = .ok result) : result.tree.selectedCount ≤ 1 := by
  cases hv : r.version.supported? with
  | none =>
    rw [Converter.convert_of_unsupported c hv] at h
    contradiction
  | some version =>
    cases hp : r.parserFailure with
    | some reason =>
      rw [Converter.convert_of_parserFailure c hv hp] at h
      contradiction
    | none =>
      rw [Converter.answer_convert c hv hp] at h
      obtain rfl := Except.ok.inj h
      exact selectedCount_enforceSingle_le _

/-- Enforcing a single selection in any tree keeps the flag of the first selected node in document
order, takes it from all others, and changes nothing else. The answer is where that node stands,
and it is none just if nothing is selected. That there were several selected nodes, and how many,
is noted once. Enforcing it again finds nothing to change and nothing to note. -/
theorem enforceSingle_keeps_first (n : Node) :
    let inOrder := Item.nodes n.toItem
    let first := inOrder.findIdx? (·.info.selected)
    let count := inOrder.countP (·.info.selected)
    let tree := (enforceSingle n).1
    n.nodes = inOrder ∧
      (Item.nodes tree.toItem).map (·.info.selected) =
        (List.range inOrder.length).map (fun k => first == some k) ∧
      tree.unmark = n.unmark ∧
      (enforceSingle n).2.1 = first ∧
      (first = none ↔ ∀ m ∈ inOrder, m.info.selected = false) ∧
      (enforceSingle n).2.2 = (if 1 < count then [.extraSelections count] else []) ∧
      enforceSingle tree = (tree, first, []) := by
  intro inOrder first count tree
  have hnodes : n.nodes = inOrder := (Node.nodes_toItem n).symm
  have hfirst : n.firstSelected? = first := by rw [Node.firstSelected?, hnodes]
  have hcount : n.selectedCount = count := by rw [Node.selectedCount, hnodes]
  have hflags : tree.flags = (List.range inOrder.length).map fun k => first == some k := by
    have hlength : n.flags.length = inOrder.length := by rw [Node.flags, List.length_map, hnodes]
    rw [flags_enforceSingle, firstOf_false_eq, hlength, ← Node.firstSelected?_eq, hfirst]
  have hagain : enforceSingle tree = (tree, tree.firstSelected?, []) :=
    enforceSingle_of_le (by rw [← Node.selectedCount_eq]; exact selectedCount_enforceSingle_le n)
  refine ⟨hnodes, ?_, unmark_enforceSingle n, ?_, ?_, ?_, ?_⟩
  · rw [← hflags, Node.nodes_toItem]
    rfl
  · rw [← hfirst, enforceSingle]
    split <;> rfl
  · simp [first]
  · rw [← hcount, enforceSingle]
    split <;> rfl
  · rw [hagain, firstSelected?_enforceSingle, hfirst]

end SyntaxCursor.Conversion
