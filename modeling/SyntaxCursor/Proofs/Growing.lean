import Mathlib.Data.List.Basic
import SyntaxCursor.Display.TreeView

/-!
# The tree that grows

The branches of the shown tree are added with a stack of nodes that have theirs already, and all
branches under one branch before any of them is visited. What comes of it is the tree that follows
the abstract tree down: once the branch of a node is taken from the stack, its branches and all
those below are put there and nowhere else (`grow_node`), and so the tree is complete when the
stack is empty (`displayTree_eq`).
-/
namespace SyntaxCursor.Display

open Abstract

namespace DisplayTree

variable {α : Type} {t b : DisplayTree α} {place : List Nat}

@[simp] theorem branchAt?_nil : t.branchAt? [] = some t := by rw [branchAt?]

@[simp] theorem put_nil {u : DisplayTree α} : t.put [] u = u := by rw [put]

theorem branchAt?_cons_eq_some {label : α} {branches : List (DisplayTree α)} {i : Nat} :
    (branch label branches).branchAt? (i :: place) = some b ↔
      ∃ c, branches[i]? = some c ∧ c.branchAt? place = some b := by
  rw [branchAt?, Option.bind_eq_some_iff]

/-- What was put at a place is found there. -/
theorem branchAt?_put (h : t.branchAt? place = some b) (u : DisplayTree α) :
    (t.put place u).branchAt? place = some u := by
  induction place generalizing t with
  | nil => simp
  | cons i place ih =>
    obtain ⟨label, branches⟩ := t
    obtain ⟨c, hi, hc⟩ := branchAt?_cons_eq_some.1 h
    exact branchAt?_cons_eq_some.2 ⟨c.put place u, by simp [hi], ih hc⟩

/-- Only what is put at a place last stays there. -/
theorem put_put (u v : DisplayTree α) : (t.put place u).put place v = t.put place v := by
  induction place generalizing t with
  | nil => simp
  | cons i place ih =>
    obtain ⟨label, branches⟩ := t
    rw [put, put, put, List.modify_modify_eq]
    simp only [Function.comp_def, ih]

theorem put_branchAt? (h : t.branchAt? place = some b) : t.put place b = t := by
  induction place generalizing t with
  | nil =>
    obtain rfl : t = b := by simpa using h
    rw [put_nil]
  | cons i place ih =>
    obtain ⟨label, branches⟩ := t
    obtain ⟨c, hi, hc⟩ := branchAt?_cons_eq_some.1 h
    obtain ⟨hlt, rfl⟩ := List.getElem?_eq_some_iff.1 hi
    rw [put, List.modify_eq_set_getElem?, hi]
    simp [ih hc]

/-- A place below another is a place in the branch there. -/
theorem branchAt?_append (h : t.branchAt? place = some b) (below : List Nat) :
    t.branchAt? (place ++ below) = b.branchAt? below := by
  induction place generalizing t with
  | nil =>
    obtain rfl : t = b := by simpa using h
    rw [List.nil_append]
  | cons i place ih =>
    obtain ⟨label, branches⟩ := t
    obtain ⟨c, hi, hc⟩ := branchAt?_cons_eq_some.1 h
    rw [List.cons_append, branchAt?, hi, Option.bind_some, ih hc]

theorem put_append (h : t.branchAt? place = some b) (below : List Nat) (u : DisplayTree α) :
    t.put (place ++ below) u = t.put place (b.put below u) := by
  induction place generalizing t with
  | nil =>
    obtain rfl : t = b := by simpa using h
    rw [List.nil_append, put_nil]
  | cons i place ih =>
    obtain ⟨label, branches⟩ := t
    obtain ⟨c, hi, hc⟩ := branchAt?_cons_eq_some.1 h
    rw [List.cons_append, put, put, List.modify_eq_set_getElem?, List.modify_eq_set_getElem?, hi]
    simp [ih hc]

theorem add_eq {label above : α} {branches : List (DisplayTree α)}
    (h : t.branchAt? place = some (.branch above branches)) :
    t.add place label =
      (t.put place (.branch above (branches ++ [.branch label []])),
        place ++ [branches.length]) := by
  rw [add, h]

end DisplayTree

open DisplayTree

mutual

/-- The branch of an item with all that is below it, if it is a node. -/
def itemBranches : Item → List LabelTree
  | .scalar _ => []
  | .node info children => [.branch (label ⟨info, children⟩) (listBranches children)]

/-- The branches of items with all that is below them. -/
def listBranches : List Item → List LabelTree
  | [] => []
  | i :: is => itemBranches i ++ listBranches is

end

/-- The branch of a node when there is none below it yet. -/
def bareBranch (n : Node) : LabelTree := .branch (label n) []

/-- The branches of nodes under one branch, numbered from `next` on. -/
def placed (place : List Nat) (next : Nat) : List Node → List (Node × List Nat)
  | [] => []
  | n :: ns => (n, place ++ [next]) :: placed place (next + 1) ns

/-- Nodes are added as bare branches behind those that are there. -/
theorem addNodes_eq {place : List Nat} {ns : List Node} {t : LabelTree}
    {above : Except NumeralTooLong (List Char)} {branches : List LabelTree}
    (h : t.branchAt? place = some (.branch above branches)) :
    addNodes place ns t =
      (t.put place (.branch above (branches ++ ns.map bareBranch)),
        placed place branches.length ns) := by
  induction ns generalizing t branches with
  | nil => rw [addNodes, List.map_nil, List.append_nil, put_branchAt? h, placed]
  | cons n ns ih =>
    have hown := branchAt?_put h (.branch above (branches ++ [.branch (label n) []]))
    simp only [addNodes, add_eq h, ih hown, put_put]
    simp [placed, bareBranch]

theorem grow_cons {place : List Nat} {current : Node} {t : LabelTree}
    {above : Except NumeralTooLong (List Char)}
    (h : t.branchAt? place = some (.branch above [])) (fuel : Nat)
    (stack : List (Node × List Nat)) :
    grow (fuel + 1) ((current, place) :: stack) t =
      grow fuel (placed place 0 current.childNodes ++ stack)
        (t.put place (.branch above (current.childNodes.map bareBranch))) := by
  rw [grow]
  simp only [addNodes_eq h, List.nil_append, List.length_nil]

mutual

/-- Once the branch of a node is taken from the stack, all that belongs below it is put there, in as
many steps as there are nodes. -/
theorem grow_node {i : Item} {n : Node} (hn : i.node? = some n) {place : List Nat} {t : LabelTree}
    (h : t.branchAt? place = some (bareBranch n)) (fuel : Nat) (stack : List (Node × List Nat)) :
    grow (fuel + i.size) ((n, place) :: stack) t =
      grow fuel stack (t.put place (.branch (label n) (listBranches n.children))) := by
  match i with
  | .scalar value => contradiction
  | .node info children =>
    obtain rfl := Option.some.inj hn
    have hbelow := branchAt?_put h
      (.branch (label ⟨info, children⟩) ([] ++ (children.filterMap Item.node?).map bareBranch))
    rw [Item.size_node, ← Nat.add_assoc, grow_cons h]
    exact (grow_list hbelow fuel stack).trans (by rw [put_put, List.nil_append])

/-- The same for the items under one branch, where the branches of those before them are `done`. -/
theorem grow_list {above : Except NumeralTooLong (List Char)} {done : List LabelTree}
    {is : List Item} {place : List Nat} {t : LabelTree}
    (h : t.branchAt? place =
      some (.branch above (done ++ (is.filterMap Item.node?).map bareBranch)))
    (fuel : Nat) (stack : List (Node × List Nat)) :
    grow (fuel + Item.sizes is)
        (placed place done.length (is.filterMap Item.node?) ++ stack) t =
      grow fuel stack (t.put place (.branch above (done ++ listBranches is))) := by
  match is with
  | [] => simpa [placed, listBranches] using congrArg (grow fuel stack) (put_branchAt? h).symm
  | .scalar value :: is =>
    rw [List.filterMap_cons_none (by rfl)] at h ⊢
    rw [Item.sizes_cons, Item.size_scalar, Nat.zero_add, listBranches, itemBranches,
      List.nil_append]
    exact grow_list h fuel stack
  | .node info children :: is =>
    rw [List.filterMap_cons_some (b := ⟨info, children⟩) (by rfl)] at h ⊢
    rw [List.map_cons] at h
    have hown : t.branchAt? (place ++ [done.length]) = some (bareBranch ⟨info, children⟩) := by
      rw [branchAt?_append h]
      simp [branchAt?]
    have hput : t.put (place ++ [done.length])
          (.branch (label ⟨info, children⟩) (listBranches children)) =
        t.put place (.branch above ((done ++ itemBranches (.node info children)) ++
          (is.filterMap Item.node?).map bareBranch)) := by
      rw [put_append h]
      simp [put, itemBranches, ← List.set_eq_modify]
    have hrest := branchAt?_put h (.branch above
      ((done ++ itemBranches (.node info children)) ++ (is.filterMap Item.node?).map bareBranch))
    rw [Item.sizes_cons, Nat.add_comm (Item.size _), ← Nat.add_assoc, placed,
      List.cons_append, grow_node rfl hown, hput]
    have hdone : done.length + 1 = (done ++ itemBranches (.node info children)).length := by
      simp [itemBranches]
    rw [hdone, grow_list hrest, put_put, List.append_assoc, listBranches]

end

/-- The tree that is shown follows the abstract tree down. -/
theorem displayTree_eq (n : Node) :
    displayTree n = .branch (label n) (listBranches n.children) := by
  have hroot : (bareBranch n).branchAt? [] = some (bareBranch n) := branchAt?_nil
  have hgrown := grow_node n.node?_toItem hroot 0 []
  rwa [Nat.zero_add, grow, put_nil] at hgrown

end SyntaxCursor.Display
